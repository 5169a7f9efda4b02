/-!
# Sides of a dialogue

A message belongs to one of three sides. Each side has an operator that opens its message
lines and a name that its directives and style classes share. A `PerSide` value holds one
entry for each side, so every choice by side is made in one place.
-/

namespace Colloquy

/-- The three conversational roles a message can belong to. -/
inductive Side where
  | left
  | right
  | center
  deriving DecidableEq, Repr

namespace Side

/-- Every side, in the order in which sides are listed. -/
def all : List Side := [.left, .right, .center]

/-- The character that opens a message line of the side. -/
def operator : Side → Char
  | .left => '<'
  | .right => '>'
  | .center => '='

/-- The side whose message lines open with the character. -/
def ofOperator? : Char → Option Side
  | '<' => some .left
  | '>' => some .right
  | '=' => some .center
  | _ => none

/-- The lower-case name of the side. -/
def name : Side → String
  | .left => "left"
  | .right => "right"
  | .center => "center"

/-- Every side is listed. -/
theorem mem_all (side : Side) : side ∈ all := by
  cases side <;> decide

/-- A character is read as a side exactly when it is that side's operator. -/
theorem ofOperator?_eq_some_iff {c : Char} {side : Side} :
    ofOperator? c = some side ↔ c = side.operator := by
  constructor
  · intro h
    unfold ofOperator? at h
    split at h <;> cases h <;> rfl
  · rintro rfl
    cases side <;> rfl

end Side

/-- One value for each side. -/
structure PerSide (α : Type) where
  left : α
  right : α
  center : α
  deriving DecidableEq, Repr

namespace PerSide

variable {α β : Type}

/-- The value of a side. -/
def get (values : PerSide α) : Side → α
  | .left => values.left
  | .right => values.right
  | .center => values.center

/-- Replace the value of one side. -/
def set (values : PerSide α) (side : Side) (value : α) : PerSide α :=
  match side with
  | .left => { values with left := value }
  | .right => { values with right := value }
  | .center => { values with center := value }

/-- Change the value of one side by a function. -/
def modify (values : PerSide α) (side : Side) (change : α → α) : PerSide α :=
  values.set side (change (values.get side))

/-- Build the value of every side by a function of the side. -/
def ofFn (value : Side → α) : PerSide α :=
  ⟨value .left, value .right, value .center⟩

/-- The values in the order in which sides are listed. -/
def toList (values : PerSide α) : List α :=
  [values.left, values.right, values.center]

/-- Apply a function to every value. -/
def map (f : α → β) (values : PerSide α) : PerSide β :=
  ⟨f values.left, f values.right, f values.center⟩

/-- Reading a built value applies the function to the side. -/
@[simp]
theorem get_ofFn (value : Side → α) (side : Side) : (ofFn value).get side = value side := by
  cases side <;> rfl

/-- Reading after replacing gives the new value on that side and the old ones elsewhere. -/
@[simp]
theorem get_set (values : PerSide α) (side other : Side) (value : α) :
    (values.set side value).get other = if other = side then value else values.get other := by
  cases side <;> cases other <;> rfl

/-- Two values that agree on every side are equal. -/
theorem ext_get {values others : PerSide α} (h : ∀ side, values.get side = others.get side) :
    values = others := by
  cases values
  cases others
  have hl := h .left
  have hr := h .right
  have hc := h .center
  simp only [get] at hl hr hc
  rw [hl, hr, hc]

end PerSide
end Colloquy
