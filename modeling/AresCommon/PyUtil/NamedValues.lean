import AresCommon.Foundation.Overlay
import Mathlib.Data.List.AList

/-!
# Named values and struct parameters

`to_dict` and `from_kwargs` over the argument packs that `NV` and `SP` build. A struct is a
family of values over its fields, a pointer to a member is the field, and a dictionary is
what it has under each name. What pybind11 converts and casts is a parameter.
-/

namespace AresCommon.PyUtil

open AresCommon.Foundation

set_option autoImplicit false

structure Field (Ty : Type) where
  name : String
  type : Ty
  deriving DecidableEq, Repr

/-- The Python objects and the conversions of pybind11 for every C++ type. -/
structure Pybind (Ty : Type) (Value : Ty → Type) (Object Error : Type) where
  pyNone : Object
  convert : (type : Ty) → Value type → Except Error Object
  /-- `object.cast<T>()` -/
  cast : (type : Ty) → Object → Except Error (Value type)

/-- `py::dict` and `py::kwargs`, whose keys are strings. -/
abbrev Dict (Object : Type) := AList fun _ : String => Object

abbrev Struct {Ty : Type} (Value : Ty → Type) := (field : Field Ty) → Value field.type

structure NamedValue (Ty : Type) (Value : Ty → Type) where
  name : String
  type : Ty
  value : Value type
  check : Bool

/-- `StructParam<T>`; `value` points to a member of the struct that is written. -/
structure StructParam (Ty : Type) where
  name : String
  value : Field Ty

variable {Ty : Type} {Value : Ty → Type} {Object Error : Type}

/-- `NV` and `NV_NO_CHECK`. -/
def namedValue (container : Struct Value) (check : Bool) (field : Field Ty) :
    NamedValue Ty Value where
  name := field.name
  type := field.type
  value := container field
  check

def structParam (field : Field Ty) : StructParam Ty where
  name := field.name
  value := field

namespace Pybind

variable (py : Pybind Ty Value Object Error)

/-! ## Writing a dictionary -/

def stored (check : (type : Ty) → Value type → Bool) (default : Object)
    (item : NamedValue Ty Value) : Except Error Object :=
  if item.check && check item.type item.value then .ok default
  else py.convert item.type item.value

/-- The fold of `to_dict` over its items, from a dictionary on. A failed conversion is an
exception, and the dictionary is lost. -/
def toDictFrom (check : (type : Ty) → Value type → Bool) (default : Object) :
    Dict Object → List (NamedValue Ty Value) → Except Error (Dict Object)
  | dict, [] => .ok dict
  | dict, item :: items =>
      match py.stored check default item with
      | .error error => .error error
      | .ok object => toDictFrom check default (dict.insert item.name object) items

def toDict (check : (type : Ty) → Value type → Bool) (default : Object)
    (items : List (NamedValue Ty Value)) : Except Error (Dict Object) :=
  py.toDictFrom check default ∅ items

def toDictPlainFrom : Dict Object → List (NamedValue Ty Value) → Except Error (Dict Object)
  | dict, [] => .ok dict
  | dict, item :: items =>
      match py.convert item.type item.value with
      | .error error => .error error
      | .ok object => toDictPlainFrom (dict.insert item.name object) items

def toDictPlain (items : List (NamedValue Ty Value)) : Except Error (Dict Object) :=
  py.toDictPlainFrom ∅ items

theorem toDictPlainFrom_eq (default : Object) (dict : Dict Object)
    (items : List (NamedValue Ty Value)) :
    py.toDictPlainFrom dict items = py.toDictFrom (fun _ _ => false) default dict items := by
  induction items generalizing dict with
  | nil => rfl
  | cons item items ih =>
      have unfiltered : py.stored (fun _ _ => false) default item =
          py.convert item.type item.value := by
        unfold stored
        rw [Bool.and_false]
        rfl
      rw [toDictPlainFrom, toDictFrom, unfiltered]
      cases py.convert item.type item.value with
      | error error => rfl
      | ok object => exact ih _

/-- The plain overload is the other one with a predicate that nothing satisfies. -/
theorem toDictPlain_eq (default : Object) (items : List (NamedValue Ty Value)) :
    py.toDictPlain items = py.toDict (fun _ _ => false) default items :=
  py.toDictPlainFrom_eq default ∅ items

/-! ## Reading keyword arguments -/

variable [DecidableEq Ty] [DecidableEq Object]

def process (kwargs : Dict Object) (target : Struct Value) (item : StructParam Ty) :
    Except Error (Struct Value) :=
  match kwargs.lookup item.name with
  | none => .ok target
  | some object =>
      if object = py.pyNone then .ok target
      else
        match py.cast item.value.type object with
        | .error error => .error error
        | .ok value => .ok (Function.update target item.value value)

/-- `from_kwargs`: the exception, if any, and the struct that it leaves. -/
def fromKwargs (kwargs : Dict Object) :
    Struct Value → List (StructParam Ty) → Option Error × Struct Value
  | target, [] => (none, target)
  | target, item :: items =>
      match py.process kwargs target item with
      | .error error => (some error, target)
      | .ok target => fromKwargs kwargs target items

end Pybind

end AresCommon.PyUtil
