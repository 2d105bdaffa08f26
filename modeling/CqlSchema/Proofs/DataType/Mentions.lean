import CqlSchema.DataType
/-!
# Handles inside a type

A type mentions a handle when that handle stands somewhere in it, at any depth of nested
collections and on either side of a map. `userTypes` lists exactly the handles that are
mentioned.
-/

namespace CqlSchema.DataType

/-- A handle stands somewhere in a type. -/
inductive Mentions : DataType → Handle → Prop where
  | user {frozen : Bool} {handle : Handle} : Mentions (.user frozen handle) handle
  | list {frozen : Bool} {item : DataType} {handle : Handle} :
      Mentions item handle → Mentions (.list frozen item) handle
  | set {frozen : Bool} {item : DataType} {handle : Handle} :
      Mentions item handle → Mentions (.set frozen item) handle
  | mapKey {frozen : Bool} {key value : DataType} {handle : Handle} :
      Mentions key handle → Mentions (.map frozen key value) handle
  | mapValue {frozen : Bool} {key value : DataType} {handle : Handle} :
      Mentions value handle → Mentions (.map frozen key value) handle

/-- Every listed handle is mentioned. -/
theorem mentions_of_mem {type : DataType} {handle : Handle} (member : handle ∈ type.userTypes) :
    type.Mentions handle := by
  induction type with
  | scalar frozen base => simp [userTypes] at member
  | list frozen item ih => exact .list (ih member)
  | set frozen item ih => exact .set (ih member)
  | map frozen key value keyIh valueIh =>
    rcases List.mem_append.1 member with inKey | inValue
    · exact .mapKey (keyIh inKey)
    · exact .mapValue (valueIh inValue)
  | user frozen named =>
    obtain rfl := List.mem_singleton.1 member
    exact .user

/-- The handles of a type are exactly those that it mentions. -/
theorem mem_userTypes_iff {type : DataType} {handle : Handle} :
    handle ∈ type.userTypes ↔ type.Mentions handle := by
  constructor
  · exact mentions_of_mem
  · intro mentioned
    induction mentioned with
    | user => exact List.mem_singleton.2 rfl
    | list _ ih => exact ih
    | set _ ih => exact ih
    | mapKey _ ih => exact List.mem_append_left _ ih
    | mapValue _ ih => exact List.mem_append_right _ ih

/-- Freezing changes no handle. -/
@[simp] theorem mentions_freeze {type : DataType} {handle : Handle} :
    type.freeze.Mentions handle ↔ type.Mentions handle := by
  rw [← mem_userTypes_iff, ← mem_userTypes_iff, freeze, userTypes_withFrozen]

end CqlSchema.DataType
