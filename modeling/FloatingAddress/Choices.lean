import FloatingAddress.Json.Shown

/-!
# Words chosen from a fixed list

Some settings are words from a short list. `Choices` holds such a list with the name and
the word of each entry; `Choices.pick` finds the entry that a value stands for, and
refuses any other value with a message that shows it.
-/

namespace FloatingAddress

/-- A list of choices. -/
structure Choices (α : Type) where
  /-- What the choices are called together. -/
  title : Text
  all : List α
  name : α → Text
  word : α → Text

/-- A value that is no choice. -/
structure Refusal where
  shown : Text
  /-- What the choices are called together. -/
  title : Text
deriving DecidableEq

/-- The wording of a refusal. -/
def Refusal.message (r : Refusal) : Text :=
  r.shown ++ " is not a valid " ++ r.title

namespace Choices

variable {α : Type}

/-- The choice that a word stands for. -/
def find? (choices : Choices α) (t : Text) : Option α :=
  choices.all.find? fun a => choices.word a = t

/-- The choice that a value stands for. -/
def pick (choices : Choices α) (v : Json.Value) : Except Refusal α :=
  let found : Option α :=
    match v with
    | .string t => choices.find? t
    | _ => none
  match found with
  | some a => .ok a
  | none => .error ⟨v.shown, choices.title⟩

end Choices
end FloatingAddress
