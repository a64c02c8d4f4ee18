import Phrasebook.Proofs.TemplateText

/-! What becomes of a template. `Piece.Reads` says how the source is read from left to right, without
saying how the reader goes about it; a source is read to its end or up to a brace that nothing closes
(`Piece.exists_reads`), and the reader finds just that (`Piece.Reads.read_eq`). So a template is
rendered in one of three ways, and parameters that are not injected do not matter
(`Engine.basic_outcomes`). -/

namespace Phrasebook

namespace Piece

/-- A source is read as some pieces, and a rest of it is left. -/
inductive Reads : (source : List Char) → (pieces : List Piece) → (rest : List Char) → Prop where
  | stop (rest : List Char) : Reads rest [] rest
  | escape {c : Char} {s rest : List Char} {pieces : List Piece} (hc : isSpecial c = true)
      (h : Reads s pieces rest) : Reads ('\\' :: c :: s) (character c :: pieces) rest
  /-- A backslash that escapes nothing stands for itself. -/
  | backslash {s rest : List Char} {pieces : List Piece}
      (hs : ∀ c ∈ s.head?, isSpecial c = false)
      (h : Reads s pieces rest) : Reads ('\\' :: s) (character '\\' :: pieces) rest
  | plain {c : Char} {s rest : List Char} {pieces : List Piece} (hopen : c ≠ '\x7b')
      (hbackslash : c ≠ '\\') (h : Reads s pieces rest) :
      Reads (c :: s) (character c :: pieces) rest
  | injection {name s rest : List Char} {pieces : List Piece} (hname : '\x7d' ∉ name)
      (h : Reads s pieces rest) :
      Reads ('\x7b' :: (name ++ '\x7d' :: s)) (injection name :: pieces) rest

theorem read_lone_backslash {s : List Char} (h : ∀ c ∈ s.head?, isSpecial c = false) :
    read ('\\' :: s) = (read s).map (character '\\' :: ·) := by
  cases s with
  | nil =>
      rw [read, read]
      rfl
  | cons c s =>
      have hc : isSpecial c = false := h c rfl
      rw [read_backslash, if_neg (by simp [hc])]

theorem read_unclosed {rest : List Char} (h : '\x7d' ∉ rest) :
    read ('\x7b' :: rest) = .error ('\x7b' :: rest) := by
  have hcut : Text.cutWhere (· == '\x7d') rest = none := by
    rw [Text.cutWhere_eq_none_iff]
    intro c hc
    rw [beq_eq_false_iff_ne]
    rintro rfl
    exact h hc
  rw [read, if_pos rfl]
  · split
    next name rest' hsome => rw [hcut] at hsome; cases hsome
    next => rfl
  · simp
  · simp

theorem map_append_cons (piece : Piece) (pieces : List Piece)
    (result : Except (List Char) (List Piece)) :
    (result.map (pieces ++ ·)).map (piece :: ·) = result.map (piece :: pieces ++ ·) := by
  cases result <;> rfl

/-- The reader reads these pieces and goes on with the rest. -/
theorem Reads.read_eq {source rest : List Char} {pieces : List Piece}
    (h : Reads source pieces rest) : read source = (read rest).map (pieces ++ ·) := by
  induction h with
  | stop rest => cases read rest <;> rfl
  | escape hc _ ih => rw [read_backslash, if_pos hc, ih, map_append_cons]
  | backslash hs _ ih => rw [read_lone_backslash hs, ih, map_append_cons]
  | plain hopen hbackslash _ ih => rw [read_character hopen hbackslash, ih, map_append_cons]
  | injection hname _ ih => rw [read_injection hname, ih, map_append_cons]

theorem Reads.read_ok {source : List Char} {pieces : List Piece} (h : Reads source pieces []) :
    read source = .ok pieces := by
  rw [h.read_eq, read, Except.map, List.append_nil]

theorem Reads.read_error {source rest : List Char} {pieces : List Piece}
    (h : Reads source pieces ('\x7b' :: rest)) (hrest : '\x7d' ∉ rest) :
    read source = .error ('\x7b' :: rest) := by
  rw [h.read_eq, read_unclosed hrest, Except.map]

/-- What is left has been part of the source. -/
theorem Reads.exists_before {source rest : List Char} {pieces : List Piece}
    (h : Reads source pieces rest) : ∃ before, source = before ++ rest := by
  induction h with
  | stop rest => exact ⟨[], rfl⟩
  | escape _ _ ih =>
      obtain ⟨before, rfl⟩ := ih
      exact ⟨_ :: _ :: before, rfl⟩
  | backslash _ _ ih | plain _ _ _ ih =>
      obtain ⟨before, rfl⟩ := ih
      exact ⟨_ :: before, rfl⟩
  | @injection name _ _ _ _ _ ih =>
      obtain ⟨before, rfl⟩ := ih
      exact ⟨'\x7b' :: (name ++ '\x7d' :: before), by simp⟩

/-- A piece is read, unless the source is at its end or at a brace that nothing closes. -/
theorem exists_reads_cons (c : Char) (s : List Char) :
    (c = '\x7b' ∧ '\x7d' ∉ s) ∨
      ∃ piece rest, rest.length ≤ s.length ∧
        ∀ pieces last, Reads rest pieces last → Reads (c :: s) (piece :: pieces) last := by
  by_cases hopen : c = '\x7b'
  · cases hcut : Text.cutWhere (· == '\x7d') s with
    | none =>
        refine .inl ⟨hopen, fun hmem => ?_⟩
        exact absurd (Text.cutWhere_eq_none_iff.1 hcut _ hmem) (by decide)
    | some parts =>
        obtain ⟨name, rest⟩ := parts
        have hlength := Text.length_lt_of_cutWhere hcut
        obtain ⟨close, hclose, rfl, hname⟩ := Text.eq_append_of_cutWhere hcut
        obtain rfl := eq_of_beq hclose
        subst hopen
        refine .inr ⟨.injection name, rest, hlength.le, fun _ _ => .injection fun hmem => ?_⟩
        exact absurd (hname _ hmem) (by decide)
  · right
    by_cases hbackslash : c = '\\'
    · subst hbackslash
      by_cases hs : ∀ d ∈ s.head?, isSpecial d = false
      · exact ⟨.character '\\', s, le_refl _, fun _ _ => .backslash hs⟩
      · cases s with
        | nil => simp at hs
        | cons d s =>
            have hd : isSpecial d = true := by simpa using hs
            exact ⟨.character d, s, Nat.le_succ _, fun _ _ => .escape hd⟩
    · exact ⟨.character c, s, le_refl _, fun _ _ => .plain hopen hbackslash⟩

/-- A source is read to its end, or up to a brace that nothing closes. -/
theorem exists_reads (source : List Char) :
    (∃ pieces, Reads source pieces []) ∨
      ∃ pieces rest, Reads source pieces ('\x7b' :: rest) ∧ '\x7d' ∉ rest := by
  -- A piece may take many characters, so the induction is on the length.
  induction hlength : source.length using Nat.strong_induction_on generalizing source with
  | _ length ih =>
      cases source with
      | nil => exact .inl ⟨[], .stop []⟩
      | cons c s =>
          rcases exists_reads_cons c s with ⟨rfl, hs⟩ | ⟨piece, rest, hrest, hcons⟩
          · exact .inr ⟨[], s, .stop _, hs⟩
          · have hlt : rest.length < length := by
              rw [← hlength, List.length_cons]
              omega
            rcases ih rest.length hlt rest rfl with ⟨pieces, h⟩ | ⟨pieces, last, h, hlast⟩
            · exact .inl ⟨piece :: pieces, hcons _ _ h⟩
            · exact .inr ⟨piece :: pieces, last, hcons _ _ h, hlast⟩

/-- The reader accepts exactly the sources that are read to their end. -/
theorem read_eq_ok_iff {source : List Char} {pieces : List Piece} :
    read source = .ok pieces ↔ Reads source pieces [] := by
  refine ⟨fun hread => ?_, Reads.read_ok⟩
  rcases exists_reads source with ⟨pieces', h⟩ | ⟨pieces', rest, h, hrest⟩
  · rw [h.read_ok] at hread
    obtain rfl := Except.ok.inj hread
    exact h
  · rw [h.read_error hrest] at hread
    cases hread

/-- Reading gets as far as an opening brace at an offset in bytes, and no brace after it closes it.
All braces before it are escaped, or closed, or within an injection. -/
def UnclosedAt (source : List Char) (offset : Nat) : Prop :=
  ∃ before rest pieces, source = before ++ '\x7b' :: rest ∧
    Reads source pieces ('\x7b' :: rest) ∧ '\x7d' ∉ rest ∧ Text.bytes before = offset

theorem exists_reads_iff {source : List Char} :
    (∃ pieces, Reads source pieces []) ↔ ∀ offset, ¬UnclosedAt source offset := by
  constructor
  · rintro ⟨pieces, hreads⟩ offset ⟨before, rest, pieces', -, hreads', hrest, -⟩
    have hread := hreads.read_ok
    rw [hreads'.read_error hrest] at hread
    cases hread
  · intro hclosed
    rcases exists_reads source with hend | ⟨pieces, rest, hreads, hrest⟩
    · exact hend
    · obtain ⟨before, hsource⟩ := hreads.exists_before
      exact absurd ⟨before, rest, pieces, hsource, hreads, hrest, rfl⟩ (hclosed (Text.bytes before))

/-- The names of the injections in their order. -/
def names (pieces : List Piece) : List String :=
  pieces.filterMap fun
    | character _ => none
    | injection name => some (String.ofList name)

end Piece

/-! ### Texts and values in turn -/

/-- There is a plain text at each even place, first and last, and at the odd places between them are
the values of the names in their order. -/
structure Segment.Alternate (parameters : Parameters) (names : List String)
    (segments : List Segment) : Prop where
  length : segments.length = 2 * names.length + 1
  literal : ∀ i ≤ names.length, ∃ text, segments[2 * i]? = some (.literal text)
  parameter : ∀ (i : Nat) (name : String), names[i]? = some name →
    ∃ value, parameters.find? name = some value ∧ segments[2 * i + 1]? = some (.parameter value)

namespace Composition

theorem names_pieces (composition : Composition) :
    Piece.names composition.pieces = composition.insertions.map (·.parameter) := by
  have hplain : ∀ text : String, Piece.names (text.toList.map .character) = [] := by
    intro text
    rw [Piece.names, List.filterMap_map, List.filterMap_eq_nil_iff]
    intro c _
    rfl
  obtain ⟨lead, insertions⟩ := composition
  rw [pieces, Piece.names, List.filterMap_append, ← Piece.names, hplain, List.nil_append]
  induction insertions with
  | nil => rfl
  | cons insertion insertions ih =>
      have hafter := hplain insertion.after
      rw [Piece.names] at hafter
      rw [List.flatMap_cons, List.filterMap_append, ih, Insertion.pieces, List.filterMap_cons, hafter]
      simp

theorem segments_cons (lead : String) (insertion : Insertion) (insertions : List Insertion) :
    segments ⟨lead, insertion :: insertions⟩ =
      .literal lead :: .parameter insertion.value :: segments ⟨insertion.after, insertions⟩ := rfl

theorem length_segments (composition : Composition) :
    composition.segments.length = 2 * composition.insertions.length + 1 := by
  obtain ⟨lead, insertions⟩ := composition
  induction insertions generalizing lead with
  | nil => rfl
  | cons insertion insertions ih =>
      rw [segments_cons, List.length_cons, List.length_cons, ih]
      show 2 * insertions.length + 1 + 1 + 1 = 2 * (insertions.length + 1) + 1
      omega

theorem exists_literal (composition : Composition) {i : Nat}
    (h : i ≤ composition.insertions.length) :
    ∃ text, composition.segments[2 * i]? = some (.literal text) := by
  obtain ⟨lead, insertions⟩ := composition
  induction insertions generalizing lead i with
  | nil =>
      obtain rfl : i = 0 := Nat.le_zero.1 h
      exact ⟨lead, rfl⟩
  | cons insertion insertions ih =>
      cases i with
      | zero => exact ⟨lead, rfl⟩
      | succ i => exact ih insertion.after (Nat.le_of_succ_le_succ h)

theorem getElem?_segments_odd (composition : Composition) (i : Nat) :
    composition.segments[2 * i + 1]? =
      (composition.insertions[i]?).map fun insertion => .parameter insertion.value := by
  obtain ⟨lead, insertions⟩ := composition
  induction insertions generalizing lead i with
  | nil => rfl
  | cons insertion insertions ih =>
      cases i with
      | zero => rfl
      | succ i => exact ih i insertion.after

theorem alternate {composition : Composition} {parameters : Parameters}
    (h : ∀ insertion ∈ composition.insertions,
      parameters.find? insertion.parameter = some insertion.value) :
    Segment.Alternate parameters (Piece.names composition.pieces) composition.segments := by
  rw [names_pieces]
  refine ⟨?_, ?_, ?_⟩
  · rw [length_segments, List.length_map]
  · intro i hi
    rw [List.length_map] at hi
    exact composition.exists_literal hi
  · intro i name hname
    rw [List.getElem?_map, Option.map_eq_some_iff] at hname
    obtain ⟨insertion, hinsertion, rfl⟩ := hname
    refine ⟨insertion.value, h insertion (List.mem_of_getElem? hinsertion), ?_⟩
    rw [getElem?_segments_odd, hinsertion, Option.map_some]

/-- Pieces whose names all have values are those of a composition with these values. -/
theorem exists_pieces {parameters : Parameters} {pieces : List Piece}
    (h : ∀ name ∈ Piece.names pieces, parameters.contains name = true) :
    ∃ composition : Composition, composition.pieces = pieces ∧
      ∀ insertion ∈ composition.insertions,
        parameters.find? insertion.parameter = some insertion.value := by
  induction pieces with
  | nil => exact ⟨⟨"", []⟩, rfl, by simp⟩
  | cons piece pieces ih =>
      cases piece with
      | character c =>
          obtain ⟨⟨lead, insertions⟩, rfl, hvalues⟩ := ih h
          refine ⟨⟨String.ofList (c :: lead.toList), insertions⟩, ?_, hvalues⟩
          simp [Composition.pieces]
      | injection name =>
          obtain ⟨hname, hnames⟩ := List.forall_mem_cons.1 h
          obtain ⟨⟨lead, insertions⟩, rfl, hvalues⟩ := ih hnames
          obtain ⟨value, hvalue⟩ := Option.isSome_iff_exists.1 hname
          refine ⟨⟨"", ⟨String.ofList name, value, lead⟩ :: insertions⟩, ?_,
            List.forall_mem_cons.2 ⟨hvalue, hvalues⟩⟩
          simp [Composition.pieces, Insertion.pieces]

end Composition

namespace Engine

theorem fill_missing (template : String) {parameters : Parameters} {pieces : List Piece}
    {name : String}
    (h : (Piece.names pieces).find? (fun name => !parameters.contains name) = some name) :
    fill template parameters pieces = .error (.missingParameter template name) := by
  induction pieces with
  | nil => cases h
  | cons piece pieces ih =>
      cases piece with
      | character c => rw [fill, ih h, Except.map]
      | injection first =>
          have hnames : Piece.names (.injection first :: pieces) =
              String.ofList first :: Piece.names pieces := rfl
          rw [hnames, List.find?_cons, Dictionary.contains] at h
          rw [fill]
          cases hfirst : parameters.find? (String.ofList first) with
          | none =>
              rw [hfirst] at h
              obtain rfl : String.ofList first = name := Option.some.inj h
              rfl
          | some value =>
              rw [hfirst] at h
              show (fill template parameters pieces).map (Filled.addValue value) = _
              rw [ih h, Except.map]

theorem basic_of_reads {template : Template} {pieces : List Piece}
    (h : Piece.Reads template.source.toList pieces []) (parameters : Parameters) :
    basic template parameters = (fill template.id parameters pieces).map Filled.segments := by
  simp only [basic, h.read_ok]

theorem basic_of_unclosedAt {template : Template} {offset : Nat}
    (h : Piece.UnclosedAt template.source.toList offset) (parameters : Parameters) :
    basic template parameters = .error (.unclosedInjection template.id offset) := by
  obtain ⟨before, rest, pieces, hsource, hreads, hrest, rfl⟩ := h
  have hsize : template.source.utf8ByteSize =
      Text.bytes before + Text.bytes ('\x7b' :: rest) := by
    rw [← Text.bytes_append, ← hsource, ← Text.utf8ByteSize_ofList, String.ofList_toList]
  simp only [basic, hreads.read_error hrest, hsize, Nat.add_sub_cancel]

/-- A template is rendered in one of three ways. If reading comes to a brace that nothing closes, this
is the error, whatever the parameters are. If not, the source is read to its end as pieces, and if a
name among them has no value, the first one of these is missing. Otherwise the plain texts of the
pieces and the values of the names come in turn, and other parameters do not matter. -/
theorem basic_outcomes (template : Template) :
    let source := template.source.toList
    ((∃ pieces, Piece.Reads source pieces []) ↔ ∀ offset, ¬Piece.UnclosedAt source offset) ∧
    (∀ offset, Piece.UnclosedAt source offset → ∀ parameters : Parameters,
      basic template parameters = .error (.unclosedInjection template.id offset)) ∧
    ∀ pieces, Piece.Reads source pieces [] → ∀ parameters : Parameters,
      (∀ name, (Piece.names pieces).find? (fun name => !parameters.contains name) = some name →
        basic template parameters = .error (.missingParameter template.id name)) ∧
      ((∀ name ∈ Piece.names pieces, parameters.contains name = true) →
        ∃ composition : Composition, composition.pieces = pieces ∧
          Segment.Alternate parameters (Piece.names pieces) composition.segments ∧
          ∀ parameters' : Parameters,
            (∀ name ∈ Piece.names pieces, parameters'.find? name = parameters.find? name) →
            basic template parameters' = .ok composition.segments) := by
  intro source
  refine ⟨Piece.exists_reads_iff, fun _ => basic_of_unclosedAt,
    fun pieces hreads parameters => ⟨?_, ?_⟩⟩
  · intro name hname
    rw [basic_of_reads hreads, fill_missing template.id hname, Except.map]
  · intro hnames
    obtain ⟨composition, rfl, hvalues⟩ := Composition.exists_pieces hnames
    refine ⟨composition, rfl, Composition.alternate hvalues, fun parameters' hsame => ?_⟩
    have hvalues' : ∀ insertion ∈ composition.insertions,
        parameters'.find? insertion.parameter = some insertion.value := by
      intro insertion hmem
      have hname : insertion.parameter ∈ Piece.names composition.pieces := by
        rw [Composition.names_pieces]
        exact List.mem_map_of_mem hmem
      rw [hsame _ hname, hvalues insertion hmem]
    rw [basic_of_reads hreads, Composition.fill_pieces template.id hvalues', Except.map,
      Composition.segments_filled]

/-- The first template has an open brace in its sixth byte, the second one two names without values,
and the third one an escaped brace after its only value. -/
theorem basic_outcomes_open :
    let parameters : Parameters := .ofList [("b", .number 2)]
    basic ⟨"t", "é\x7ba\x7d\x7bb\\", "basic"⟩ parameters = .error (.unclosedInjection "t" 5) ∧
      basic ⟨"t", "\x7bb\x7d\x7ba\x7d\x7bc\x7d", "basic"⟩ parameters =
        .error (.missingParameter "t" "a") ∧
      ∃ composition : Composition,
        composition.pieces = [.injection ['b'], .character '\x7b'] ∧
        Segment.Alternate parameters ["b"] composition.segments ∧
        basic ⟨"t", "\x7bb\x7d\\\x7b", "basic"⟩ (parameters.insert "c" (.number 3)) =
          .ok composition.segments := by
  intro parameters
  refine ⟨?_, ?_, ?_⟩
  · refine (basic_outcomes ⟨"t", "é\x7ba\x7d\x7bb\\", "basic"⟩).2.1 5 ?_ parameters
    refine ⟨['é', '\x7b', 'a', '\x7d'], ['b', '\\'], [.character 'é', .injection ['a']], rfl,
      ?_, by decide, by decide⟩
    exact .plain (by decide) (by decide)
      (@Piece.Reads.injection ['a'] _ _ _ (by decide) (.stop ['\x7b', 'b', '\\']))
  · have hreads : Piece.Reads "\x7bb\x7d\x7ba\x7d\x7bc\x7d".toList
        [.injection ['b'], .injection ['a'], .injection ['c']] [] :=
      Piece.read_eq_ok_iff.1 (by decide +kernel)
    exact ((basic_outcomes ⟨"t", _, "basic"⟩).2.2 _ hreads parameters).1 "a" (by decide +kernel)
  · have hreads : Piece.Reads "\x7bb\x7d\\\x7b".toList [.injection ['b'], .character '\x7b'] [] :=
      Piece.read_eq_ok_iff.1 (by decide +kernel)
    obtain ⟨composition, hpieces, halternate, hsame⟩ :=
      ((basic_outcomes ⟨"t", _, "basic"⟩).2.2 _ hreads parameters).2 (by decide)
    refine ⟨composition, hpieces, halternate, hsame _ ?_⟩
    intro name hname
    obtain rfl : name = "b" := List.mem_singleton.1 hname
    exact Dictionary.find?_insert_of_ne _ (by decide) _

end Engine

end Phrasebook
