import Conduit.Js.Text

namespace Conduit.Js

/-- The order of `localeCompare`. -/
structure Collation where
  le : Text → Text → Bool
  trans : ∀ a b c, le a b = true → le b c = true → le a c = true
  total : ∀ a b, (le a b || le b a) = true

/-- `left.key.localeCompare(right.key) <= 0`. -/
def Collation.ByKey {α : Type} (L : Collation) (key : α → Text) (left right : α) : Prop :=
  L.le (key left) (key right) = true

section

variable {α : Type} {L : Collation} {key : α → Text}

instance : DecidableRel (L.ByKey key) := fun _ _ => inferInstanceAs (Decidable (_ = true))

instance : Std.Total (L.ByKey key) :=
  ⟨fun a b => by simpa [Collation.ByKey] using L.total (key a) (key b)⟩

instance : IsTrans α (L.ByKey key) := ⟨fun a b c => L.trans (key a) (key b) (key c)⟩

end

end Conduit.Js
