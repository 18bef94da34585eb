import Mathlib.Tactic.Common

/-!
# Netlink attributes

A netlink message is parsed into a table of attributes, in which an absent attribute is a
null pointer.  `nlaGet` reads an attribute without a test; the handlers test most of them
first, and leave the local variable as it is where the attribute is absent.
-/

namespace OpenC2X.Dcc

/-- What ends the process. -/
inductive Fault where
  | nullRead
  | divideByZero
  deriving DecidableEq, Repr

abbrev Checked (α : Type) := Except Fault α

/-- The attributes nested in an attribute. -/
inductive Nested (α : Type) where
  | absent
  /-- `nla_parse_nested` fails. -/
  | malformed
  | parsed (attributes : α)
  deriving DecidableEq, Repr

namespace Netlink

variable {α : Type}

/-- `nla_get_u8` and its siblings. -/
def nlaGet (attr : Option α) : Checked α :=
  match attr with
  | some value => .ok value
  | none => .error .nullRead

/-- `if (attr) local = nla_get(attr)` -/
def nlaGetIfPresent (attr : Option α) (local₀ : α) : Checked α :=
  if attr.isSome then nlaGet attr else .ok local₀

@[simp] theorem nlaGet_some (value : α) : nlaGet (some value) = .ok value := rfl

@[simp] theorem nlaGet_none : nlaGet (none : Option α) = .error .nullRead := rfl

/-- A read under a test is safe. -/
@[simp] theorem nlaGetIfPresent_eq (attr : Option α) (local₀ : α) :
    nlaGetIfPresent attr local₀ = .ok (attr.getD local₀) := by
  cases attr <;> rfl

end Netlink

end OpenC2X.Dcc
