import Phrasebook.Dictionary
import Phrasebook.Language.Resolution
import Phrasebook.Store.Basic

/-! Values in several languages, kept in one dictionary under a name alone or under a name, a number
sign and a language tag. -/

namespace Phrasebook

/-- A value and the tag of the language it is in. -/
structure Localized (α : Type) where
  tag : Option String
  value : α
  deriving DecidableEq

namespace Localized

variable {α : Type}

/-- The entry as one of the name, if its key is the name or starts with it and a number sign. -/
def ofEntry? (name key : String) (value : α) : Option (Localized α) :=
  match name.toList.isPrefixOf? key.toList with
  | some [] => some ⟨none, value⟩
  | some ('#' :: tag) => some ⟨some (String.ofList tag), value⟩
  | _ => none

/-- The entries of a name in key order. -/
def all (values : Dictionary α) (name : String) : List (Localized α) :=
  values.entries.filterMap fun (key, value) => ofEntry? name key value

/-- The first entry with the tag that the ranges choose; if they choose none, the entry without a
tag, and if there is none, the first entry. -/
def select? (values : Dictionary α) (name : String) (wanted defaults : List Language.Range)
    (resolution : Language.Resolution) : Option (Localized α) :=
  let entries := all values name
  match resolution.choose wanted defaults (entries.filterMap (·.tag)) with
  | some tag => entries.find? (·.tag == some tag)
  | none => (entries.find? (·.tag.isNone)).or entries.head?

end Localized

/-- Selects with the resolution and the default languages of a store. -/
def Store.selectLocalized {α : Type} (store : Store) (values : Dictionary α) (name : String)
    (wanted : List Language.Range) : Option (Localized α) :=
  Localized.select? values name wanted store.defaultLanguages store.resolution

end Phrasebook
