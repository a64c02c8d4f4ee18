import Phrasebook.Proofs.KeyText

/-! Keys by their layout. The layout of a key is where its first opening bracket stands, and where
the first bracket after that closes it; every key has exactly one (`Layout.isOf_iff`). What is read
from a key is said of its layout: the name ends at the first number sign or opening bracket, the tag
begins at the first number sign outside the brackets, and the metadata are what the brackets hold
(`Layout.parse_eq_read`). -/

namespace Phrasebook

namespace Key

/-- A key cut at its first opening bracket and at the bracket that closes it. -/
inductive Layout where
  | plain (text : List Char)
  | unclosed (before : List Char) (opener : Char) (rest : List Char)
  | closed (before : List Char) (opener : Char) (content after : List Char)
  deriving DecidableEq

namespace Layout

def text : Layout → List Char
  | plain text => text
  | unclosed before opener rest => before ++ opener :: rest
  | closed before opener content after =>
    before ++ opener :: (content ++ closer opener :: after)

/-- No opening bracket comes earlier, and after it no bracket of its kind closes earlier. -/
def IsFirst : Layout → Prop
  | plain text => ∀ c ∈ text, isOpener c = false
  | unclosed before opener rest =>
    (∀ c ∈ before, isOpener c = false) ∧ isOpener opener = true ∧ closer opener ∉ rest
  | closed before opener content _ =>
    (∀ c ∈ before, isOpener c = false) ∧ isOpener opener = true ∧ closer opener ∉ content

/-- The layout of a key. -/
def IsOf (layout : Layout) (key : List Char) : Prop :=
  layout.IsFirst ∧ layout.text = key

/-- The text after the first number sign. -/
def afterSign (s : List Char) : Option (List Char) :=
  (Text.cutAt '#' s).map Prod.snd

/-- The text before the first number sign, all of it if there is none. -/
def beforeSign (s : List Char) : List Char :=
  (Text.cutAt '#' s).elim s Prod.fst

/-- What follows the first number sign outside the brackets, up to the brackets or the end. -/
def tag : Layout → Option (List Char)
  | plain text => afterSign text
  | unclosed before _ _ => afterSign before
  | closed before _ _ after => (afterSign before).or (afterSign after)

/-- What the brackets hold. -/
def content : Layout → Option (List Char)
  | plain _ => none
  | unclosed _ _ _ => none
  | closed _ _ content _ => some content

/-- The pieces between commas and ampersands, trimmed, without those that were blank. -/
def pieces (content : List Char) : List (List Char) :=
  ((content.splitOnP fun c => c = ',' ∨ c = '&').map Text.trim).filter (· ≠ [])

/-- What can be read. -/
def key (layout : Layout) : Key where
  name := String.ofList (Text.trim (layout.text.takeWhile fun c => !endsName c))
  tag := ((layout.tag.map Text.trim).filter (· ≠ [])).map String.ofList
  metadata := (layout.content.elim [] pieces).map Token.ofText

/-- It is an error exactly if there are brackets that are not closed. -/
def read (layout : Layout) : Except Unclosed Key :=
  match layout with
  | unclosed .. => .error ⟨layout.key⟩
  | plain .. => .ok layout.key
  | closed .. => .ok layout.key

/-- Where the cuts are made. -/
def ofKey (key : List Char) : Layout :=
  let before := key.takeWhile fun c => !isOpener c
  match key.dropWhile fun c => !isOpener c with
  | [] => plain key
  | opener :: rest =>
    match Text.cutAt (closer opener) rest with
    | some (content, after) => closed before opener content after
    | none => unclosed before opener rest

theorem isOf_ofKey (key : List Char) : (ofKey key).IsOf key := by
  have hbefore : ∀ c ∈ key.takeWhile fun c => !isOpener c, isOpener c = false := by
    intro c hc
    simpa using List.mem_takeWhile_imp hc
  have hspan : (key.takeWhile fun c => !isOpener c) ++ (key.dropWhile fun c => !isOpener c) = key :=
    List.takeWhile_append_dropWhile
  rw [ofKey]
  split
  next hdrop =>
    rw [hdrop, List.append_nil] at hspan
    rw [hspan] at hbefore
    exact ⟨hbefore, rfl⟩
  next opener rest hdrop =>
    have hopener : isOpener opener = true := by
      have hhead := List.head?_dropWhile_not (fun c => !isOpener c) key
      simpa [hdrop] using hhead
    rw [hdrop] at hspan
    split
    next content after hcut =>
      obtain ⟨rfl, hcontent⟩ := Text.cutAt_eq_some_iff.1 hcut
      exact ⟨⟨hbefore, hopener, hcontent⟩, hspan⟩
    next hcut => exact ⟨⟨hbefore, hopener, Text.cutAt_eq_none_iff.1 hcut⟩, hspan⟩

theorem ofKey_text {layout : Layout} (h : layout.IsFirst) : ofKey layout.text = layout := by
  have hspan : ∀ {before : List Char} {opener : Char}, (∀ c ∈ before, isOpener c = false) →
      isOpener opener = true → ∀ rest : List Char,
      ((before ++ opener :: rest).takeWhile fun c => !isOpener c) = before ∧
        ((before ++ opener :: rest).dropWhile fun c => !isOpener c) = opener :: rest := by
    intro before opener hbefore hopener rest
    apply Text.span_append
    · exact fun c hc => by rw [hbefore c hc, Bool.not_false]
    · rintro c ⟨⟩
      rw [hopener, Bool.not_true]
  cases layout with
  | plain text =>
      have hdrop : (text.dropWhile fun c => !isOpener c) = [] :=
        List.dropWhile_eq_nil_iff.2 fun c hc => by rw [h c hc, Bool.not_false]
      simp only [Layout.text, ofKey, hdrop]
  | unclosed before opener rest =>
      obtain ⟨hbefore, hopener, hcloser⟩ := h
      obtain ⟨htake, hdrop⟩ := hspan hbefore hopener rest
      simp only [text, ofKey, htake, hdrop, Text.cutAt_eq_none_iff.2 hcloser]
  | closed before opener content after =>
      obtain ⟨hbefore, hopener, hcloser⟩ := h
      obtain ⟨htake, hdrop⟩ := hspan hbefore hopener (content ++ closer opener :: after)
      simp only [text, ofKey, htake, hdrop, Text.cutAt_append hcloser]

/-- Every key has one layout. -/
theorem isOf_iff {layout : Layout} {key : List Char} : layout.IsOf key ↔ layout = ofKey key := by
  constructor
  · rintro ⟨hfirst, rfl⟩
    exact (ofKey_text hfirst).symm
  · rintro rfl
    exact isOf_ofKey key

theorem tagOf_eq (tag : Option (List Char)) :
    tag.bind tagOf = ((tag.map Text.trim).filter (· ≠ [])).map String.ofList := by
  cases tag with
  | none => rfl
  | some s =>
      by_cases hblank : Text.trim s = [] <;> simp [tagOf, hblank, Option.filter]

theorem tokens_eq (content : List Char) : tokens content = (pieces content).map Token.ofText := by
  have hpieces : pieces content =
      ((content.splitOnP fun c => c == ',' || c == '&').map Text.trim).filter
        fun entry => !entry.isEmpty := by
    rw [pieces]
    congr 1
    · funext s
      cases s <;> rfl
    · congr 2
      funext c
      exact Bool.decide_or _ _
  rw [hpieces]
  rfl

theorem readBlock_unclosed {opener : Char} {rest : List Char} (h : closer opener ∉ rest)
    (name : String) (tag : Option (List Char)) :
    readBlock name tag opener rest = .error ⟨⟨name, tag.bind tagOf, []⟩⟩ := by
  rw [readBlock, Text.cutAt_eq_none_iff.2 h]

theorem readBlock_closed {opener : Char} {content : List Char} (h : closer opener ∉ content)
    (after : List Char) (name : String) (tag : Option (List Char)) :
    readBlock name tag opener (content ++ closer opener :: after) =
      .ok ⟨name, (tag.or (afterSign after)).bind tagOf, tokens content⟩ := by
  rw [readBlock, Text.cutAt_append h]
  cases tag with
  | some tag => rfl
  | none =>
      rw [Option.none_or, afterSign, Option.bind_map]
      rfl

theorem sign_cases (s : List Char) :
    (afterSign s = none ∧ beforeSign s = s ∧ '#' ∉ s) ∨
      ∃ tag, afterSign s = some tag ∧ s = beforeSign s ++ '#' :: tag ∧ '#' ∉ beforeSign s := by
  rw [afterSign, beforeSign]
  cases hcut : Text.cutAt '#' s with
  | none => exact .inl ⟨rfl, rfl, Text.cutAt_eq_none_iff.1 hcut⟩
  | some parts =>
      obtain ⟨front, tag⟩ := parts
      exact .inr ⟨tag, rfl, Text.cutAt_eq_some_iff.1 hcut⟩

theorem endsName_eq_false {c : Char} (hsign : c ≠ '#') (hopener : isOpener c = false) :
    endsName c = false := by
  rw [endsName, hopener, Bool.or_false]
  exact beq_false_of_ne hsign

section

variable {before : List Char} (hbefore : ∀ c ∈ before, isOpener c = false) (rest : List Char)
  (hrest : ∀ c ∈ rest.head?, isOpener c = true)
include hbefore hrest

/-- The name ends at the first number sign before the brackets, or where they begin. -/
theorem span_endsName :
    ((before ++ rest).takeWhile fun c => !endsName c) = beforeSign before ∧
      ((before ++ rest).dropWhile fun c => !endsName c) =
        (afterSign before).elim rest fun tag => '#' :: (tag ++ rest) := by
  rcases sign_cases before with ⟨hafter, hall, hsign⟩ | ⟨tag, hafter, htext, hsign⟩
  · rw [hafter, hall]
    apply Text.span_append
    · intro c hc
      rw [endsName_eq_false (fun heq => hsign (heq ▸ hc)) (hbefore c hc), Bool.not_false]
    · intro c hc
      rw [endsName, hrest c hc, Bool.or_true, Bool.not_true]
  · have hmem : ∀ c ∈ beforeSign before, c ∈ before := by
      intro c hc
      rw [htext]
      exact List.mem_append_left _ hc
    have hpieces : before ++ rest = beforeSign before ++ '#' :: (tag ++ rest) := by
      conv_lhs => rw [htext]
      rw [List.append_assoc, List.cons_append]
    rw [hafter, Option.elim_some, hpieces]
    apply Text.span_append
    · intro c hc
      rw [endsName_eq_false (fun heq => hsign (heq ▸ hc)) (hbefore c (hmem c hc)), Bool.not_false]
    · rintro c ⟨⟩
      rfl

/-- What stands before the brackets is a name and, after a number sign, a tag. -/
theorem parse_append :
    parse (before ++ rest) =
      let name := String.ofList (Text.trim ((before ++ rest).takeWhile fun c => !endsName c))
      match rest with
      | [] => .ok ⟨name, (afterSign before).bind tagOf, []⟩
      | opener :: rest => readBlock name (afterSign before) opener rest := by
  obtain ⟨-, hdrop⟩ := span_endsName hbefore rest hrest
  rw [parse]
  simp only [hdrop]
  rcases sign_cases before with ⟨hafter, -, -⟩ | ⟨tag, hafter, htext, -⟩
  · rw [hafter, Option.elim_none]
    cases rest with
    | nil => rfl
    | cons opener rest =>
        have hne : opener ≠ '#' := (ne_of_isOpener (hrest opener rfl)).2.2
        simp only [if_neg hne]
  · have htag : ∀ c ∈ tag, (!isOpener c) = true := by
      intro c hc
      rw [hbefore c (by rw [htext]; simp [hc]), Bool.not_false]
    have hopener : ∀ c ∈ rest.head?, (!isOpener c) = false := by
      intro c hc
      rw [hrest c hc, Bool.not_true]
    obtain ⟨htake, hdropTag⟩ := Text.span_append htag hopener
    rw [hafter, Option.elim_some]
    simp only [if_pos, readTag, htake, hdropTag]
    cases rest <;> rfl

end

/-- A key is read as its layout says. -/
theorem parse_eq_read {layout : Layout} (h : layout.IsFirst) : parse layout.text = layout.read := by
  cases layout with
  | plain text =>
      have hparse := parse_append h [] (by simp)
      rw [List.append_nil] at hparse
      rw [Layout.text, hparse, tagOf_eq]
      rfl
  | unclosed before opener rest =>
      obtain ⟨hbefore, hopener, hcloser⟩ := h
      rw [text, parse_append hbefore _ (by rintro c ⟨⟩; exact hopener)]
      simp only [readBlock_unclosed hcloser, tagOf_eq]
      rfl
  | closed before opener content after =>
      obtain ⟨hbefore, hopener, hcloser⟩ := h
      rw [text, parse_append hbefore _ (by rintro c ⟨⟩; exact hopener)]
      simp only [readBlock_closed hcloser, tagOf_eq, tokens_eq]
      rfl

end Layout

end Key

end Phrasebook
