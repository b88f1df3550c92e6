import AresCommon.PyUtil.NamedValues

/-!
# From a struct to a dictionary and back

What `to_dict` leaves under a name is what one of its items stores, and `from_kwargs` is
the overlay of what a dictionary says on the struct that it writes. Between them a field
takes its value over unless it was filtered out or its value is `None` in Python.
-/

namespace AresCommon.PyUtil

open AresCommon.Foundation

set_option autoImplicit false

variable {Ty : Type} {Value : Ty → Type} {Object Error : Type}

namespace Pybind

variable {py : Pybind Ty Value Object Error}
variable {check : (type : Ty) → Value type → Bool} {default : Object}
variable {items : List (NamedValue Ty Value)} {before dict : Dict Object}

/-- Casting the object of a value yields the value, unless the object is `None`. -/
def Faithful (py : Pybind Ty Value Object Error) : Prop :=
  ∀ (type : Ty) (value : Value type) (object : Object),
    py.convert type value = .ok object → object ≠ py.pyNone → py.cast type object = .ok value

/-! ## What a dictionary holds -/

theorem toDictFrom_cons {item : NamedValue Ty Value}
    (produced : py.toDictFrom check default before (item :: items) = .ok dict) :
    ∃ object, py.stored check default item = .ok object ∧
      py.toDictFrom check default (before.insert item.name object) items = .ok dict := by
  unfold toDictFrom at produced
  cases answer : py.stored check default item with
  | error error => simp only [answer, reduceCtorEq] at produced
  | ok object => exact ⟨object, rfl, by simpa only [answer] using produced⟩

theorem toDictFrom_entries (produced : py.toDictFrom check default before items = .ok dict)
    {name : String} {object : Object} (entry : dict.lookup name = some object) :
    before.lookup name = some object ∨
      ∃ item, item ∈ items ∧ item.name = name ∧ py.stored check default item = .ok object := by
  induction items generalizing before with
  | nil =>
      simp only [toDictFrom, Except.ok.injEq] at produced
      exact .inl (produced ▸ entry)
  | cons item items ih =>
      obtain ⟨first, stores, rest⟩ := toDictFrom_cons produced
      obtain earlier | ⟨later, member, named, holds⟩ := ih rest
      · by_cases same : name = item.name
        · subst same
          rw [AList.lookup_insert, Option.some.injEq] at earlier
          exact .inr ⟨item, List.mem_cons_self, rfl, earlier ▸ stores⟩
        · rw [AList.lookup_insert_ne same] at earlier
          exact .inl earlier
      · exact .inr ⟨later, List.mem_cons_of_mem item member, named, holds⟩

theorem toDictFrom_names (produced : py.toDictFrom check default before items = .ok dict)
    {name : String} (listed : name ∈ before ∨ ∃ item, item ∈ items ∧ item.name = name) :
    name ∈ dict := by
  induction items generalizing before with
  | nil =>
      simp only [toDictFrom, Except.ok.injEq] at produced
      obtain old | ⟨item, member, _⟩ := listed
      · exact produced ▸ old
      · cases member
  | cons item items ih =>
      obtain ⟨object, _, rest⟩ := toDictFrom_cons produced
      apply ih rest
      obtain old | ⟨other, member, named⟩ := listed
      · exact .inl ((AList.mem_insert before).mpr (.inr old))
      · obtain here | later := List.mem_cons.mp member
        · exact .inl ((AList.mem_insert before).mpr (.inl (named ▸ here ▸ rfl)))
        · exact .inr ⟨other, later, named⟩

theorem toDict_entries (produced : py.toDict check default items = .ok dict)
    {name : String} {object : Object} (entry : dict.lookup name = some object) :
    ∃ item, item ∈ items ∧ item.name = name ∧ py.stored check default item = .ok object := by
  obtain nothing | found := toDictFrom_entries produced entry
  · rw [AList.lookup_empty] at nothing
    cases nothing
  · exact found

theorem toDict_names (produced : py.toDict check default items = .ok dict)
    {item : NamedValue Ty Value} (member : item ∈ items) :
    ∃ object, dict.lookup item.name = some object := by
  apply Option.isSome_iff_exists.mp
  apply AList.lookup_isSome.mpr
  exact toDictFrom_names produced (.inr ⟨item, member, rfl⟩)

/-! ## What a field leaves -/

variable {fields sources targets : List (Field Ty)} {values : Struct Value}
variable {flags : Field Ty → Bool}

abbrev item (values : Struct Value) (flags : Field Ty → Bool) (field : Field Ty) :
    NamedValue Ty Value :=
  namedValue values (flags field) field

def Filtered (check : (type : Ty) → Value type → Bool) (values : Struct Value)
    (flags : Field Ty → Bool) (field : Field Ty) : Prop :=
  flags field = true ∧ check field.type (values field) = true

theorem stored_filtered {field : Field Ty} (filtered : Filtered check values flags field) :
    py.stored check default (item values flags field) = .ok default := by
  have both : (flags field && check field.type (values field)) = true :=
    Bool.and_eq_true_iff.mpr filtered
  exact if_pos both

theorem stored_unfiltered {field : Field Ty}
    (unfiltered : ¬ Filtered check values flags field) :
    py.stored check default (item values flags field) =
      py.convert field.type (values field) := by
  have both : ¬ (flags field && check field.type (values field)) = true := fun holds =>
    unfiltered (Bool.and_eq_true_iff.mp holds)
  exact if_neg both

def Castable (py : Pybind Ty Value Object Error) (kwargs : Dict Object) (field : Field Ty) :
    Prop :=
  ∀ object, kwargs.lookup field.name = some object → object ≠ py.pyNone →
    ∃ value, py.cast field.type object = .ok value

/-- The value of a field arrives: `to_dict` was given it, did not filter it out, and stored
an object other than `None`. -/
def Arrives (py : Pybind Ty Value Object Error) (check : (type : Ty) → Value type → Bool)
    (values : Struct Value) (flags : Field Ty → Bool) (sources : List (Field Ty))
    (field : Field Ty) : Prop :=
  field ∈ sources ∧ ¬ Filtered check values flags field ∧
    py.convert field.type (values field) ≠ .ok py.pyNone

/-- What keyword arguments say about a field: nothing, when they have no entry or `None`. -/
def given [DecidableEq Object] (py : Pybind Ty Value Object Error) (kwargs : Dict Object)
    (field : Field Ty) : Option (Value field.type) :=
  match kwargs.lookup field.name with
  | none => none
  | some object => if object = py.pyNone then none else (py.cast field.type object).toOption

section Produced

variable (distinct : (fields.map Field.name).Nodup) (listed : sources ⊆ fields)
include distinct listed

theorem stored_of_entry
    (produced : py.toDict check default (sources.map (item values flags)) = .ok dict)
    {field : Field Ty} (member : field ∈ fields) {object : Object}
    (entry : dict.lookup field.name = some object) :
    field ∈ sources ∧ py.stored check default (item values flags field) = .ok object := by
  obtain ⟨_, stores, named, holds⟩ := toDict_entries produced entry
  obtain ⟨source, sent, rfl⟩ := List.mem_map.mp stores
  have same : source = field := List.inj_on_of_nodup_map distinct (listed sent) member named
  exact ⟨same ▸ sent, same ▸ holds⟩

variable (produced : py.toDict check py.pyNone (sources.map (item values flags)) = .ok dict)
include produced

theorem convert_of_entry {field : Field Ty} (member : field ∈ fields) {object : Object}
    (entry : dict.lookup field.name = some object) (present : object ≠ py.pyNone) :
    field ∈ sources ∧ ¬ Filtered check values flags field ∧
      py.convert field.type (values field) = .ok object := by
  obtain ⟨sent, stores⟩ := stored_of_entry distinct listed produced member entry
  have unfiltered : ¬ Filtered check values flags field := by
    intro filtered
    rw [stored_filtered filtered, Except.ok.injEq] at stores
    exact present stores.symm
  rw [stored_unfiltered unfiltered] at stores
  exact ⟨sent, unfiltered, stores⟩

theorem castable_of_toDict (faithful : py.Faithful) {field : Field Ty}
    (member : field ∈ fields) : py.Castable dict field := by
  intro object entry present
  obtain ⟨_, _, converts⟩ := convert_of_entry distinct listed produced member entry present
  exact ⟨values field, faithful _ _ _ converts present⟩

variable [DecidableEq Object]

theorem given_of_arrives (faithful : py.Faithful) {field : Field Ty}
    (arrives : py.Arrives check values flags sources field) :
    py.given dict field = some (values field) := by
  obtain ⟨sent, unfiltered, nonNone⟩ := arrives
  obtain ⟨object, entry⟩ : ∃ object, dict.lookup field.name = some object :=
    toDict_names produced (List.mem_map_of_mem sent)
  have converts : py.convert field.type (values field) = .ok object := by
    rw [← stored_unfiltered unfiltered]
    exact (stored_of_entry distinct listed produced (listed sent) entry).2
  have present : object ≠ py.pyNone := fun absent => nonNone (absent ▸ converts)
  simp only [given, entry, present, if_false, faithful _ _ _ converts present, Except.toOption]

theorem given_of_not_arrives {field : Field Ty} (member : field ∈ fields)
    (lost : ¬ py.Arrives check values flags sources field) : py.given dict field = none := by
  unfold given
  cases entry : dict.lookup field.name with
  | none => rfl
  | some object =>
      by_cases absent : object = py.pyNone
      · simp only [absent, if_pos]
      · obtain ⟨sent, unfiltered, converts⟩ :=
          convert_of_entry distinct listed produced member entry absent
        refine absurd ⟨sent, unfiltered, fun nothing => absent ?_⟩ lost
        rw [converts, Except.ok.injEq] at nothing
        exact nothing

end Produced

/-! ## The round trip -/

variable [DecidableEq Ty] [DecidableEq Object]

theorem process_structParam {kwargs : Dict Object} {field : Field Ty}
    (castable : py.Castable kwargs field) (target : Struct Value) :
    py.process kwargs target (structParam field) =
      .ok (patchAt (py.given kwargs) target field) := by
  unfold process patchAt given structParam
  cases entry : kwargs.lookup field.name with
  | none => rfl
  | some object =>
      by_cases absent : object = py.pyNone
      · simp only [absent, if_pos]
      · obtain ⟨value, casts⟩ := castable object entry absent
        simp only [absent, if_false, casts, Except.toOption]

/-- `from_kwargs` is an overlay on the struct that it writes. -/
theorem fromKwargs_eq_overlay {kwargs : Dict Object} (fields : List (Field Ty))
    (castable : ∀ field ∈ fields, py.Castable kwargs field) (target : Struct Value) :
    py.fromKwargs kwargs target (fields.map structParam) =
      (none, overlay (patchOn fields (py.given kwargs)) target) := by
  rw [← foldl_patchAt]
  induction fields generalizing target with
  | nil => rfl
  | cons field fields ih =>
      obtain ⟨first, rest⟩ := List.forall_mem_cons.mp castable
      simp only [List.map_cons, fromKwargs, process_structParam first, List.foldl_cons]
      exact ih rest _

/-- A struct written from the dictionary of another takes the values that arrive for the
fields it names, and keeps every other value; nothing is raised. -/
theorem from_kwargs_of_to_dict (faithful : py.Faithful)
    (distinct : (fields.map Field.name).Nodup) (sources_listed : sources ⊆ fields)
    (targets_listed : targets ⊆ fields)
    (produced : py.toDict check py.pyNone (sources.map (item values flags)) = .ok dict)
    (target : Struct Value) :
    ∃ written, py.fromKwargs dict target (targets.map structParam) = (none, written) ∧
      ∀ field,
        (field ∈ targets ∧ py.Arrives check values flags sources field →
          written field = values field) ∧
        (¬ (field ∈ targets ∧ py.Arrives check values flags sources field) →
          written field = target field) := by
  have castable : ∀ field ∈ targets, py.Castable dict field := fun field member =>
    castable_of_toDict distinct sources_listed produced faithful (targets_listed member)
  refine ⟨_, fromKwargs_eq_overlay targets castable target, fun field => ⟨?_, ?_⟩⟩
  · rintro ⟨member, arrives⟩
    have arrived := given_of_arrives distinct sources_listed produced faithful arrives
    simp only [overlay, patchOn, if_pos member, arrived, Option.getD_some]
  · intro lost
    by_cases member : field ∈ targets
    · have nothing := given_of_not_arrives distinct sources_listed produced
        (targets_listed member) fun arrives => lost ⟨member, arrives⟩
      simp only [overlay, patchOn, if_pos member, nothing, Option.getD_none]
    · simp only [overlay, patchOn, if_neg member, Option.getD_none]

/-- `std::optional<unsigned>` as the only type, whose `std::nullopt` is `None`. -/
def optionalUnsigned : Pybind Unit (fun _ => Option Nat) (Option Nat) Unit where
  pyNone := none
  convert _ value := .ok value
  cast _ object := .ok object

theorem optionalUnsigned_faithful : optionalUnsigned.Faithful := by
  intro type value object converts _
  exact congrArg Except.ok (Except.ok.inj converts).symm

def fieldA : Field Unit := ⟨"a", ()⟩
def fieldB : Field Unit := ⟨"b", ()⟩
def fieldC : Field Unit := ⟨"c", ()⟩

def sevenAndFifty : Struct fun _ : Unit => Option Nat := fun field =>
  if field = fieldA then some 7 else some 50

theorem from_kwargs_of_to_dict_three :
    ∃ written,
      optionalUnsigned.fromKwargs (AList.insert "b" none (AList.insert "a" (some 7) ∅))
          (fun _ => some 1) ([fieldA, fieldB, fieldC].map structParam) = (none, written) ∧
      ∀ field,
        (field ∈ [fieldA, fieldB, fieldC] ∧
            optionalUnsigned.Arrives (fun _ value => value == some 50) sevenAndFifty (fun _ => true)
              [fieldA, fieldB] field →
          written field = sevenAndFifty field) ∧
        (¬ (field ∈ [fieldA, fieldB, fieldC] ∧
            optionalUnsigned.Arrives (fun _ value => value == some 50) sevenAndFifty (fun _ => true)
              [fieldA, fieldB] field) →
          written field = some 1) :=
  have distinct : ([fieldA, fieldB, fieldC].map Field.name).Nodup := by decide
  from_kwargs_of_to_dict optionalUnsigned_faithful distinct (by decide) (by decide) rfl
    fun _ => some 1

/-- A value that is `None` in Python is lost although its check flag is not set. -/
theorem nullopt_keeps_the_target :
    optionalUnsigned.Faithful ∧ ∃ dict written,
      optionalUnsigned.toDict (fun _ value => value == some 50) none
          ([fieldA].map (item (fun _ => none) fun _ => false)) = .ok dict ∧
      optionalUnsigned.fromKwargs dict (fun _ => some 1) ([fieldA].map structParam) =
        (none, written) ∧
      ¬ Filtered (fun _ value => value == some 50) (fun _ => none) (fun _ => false) fieldA ∧
      written fieldA ≠ none := by
  refine ⟨optionalUnsigned_faithful, _, _, rfl, rfl, ?_, by decide⟩
  intro filtered
  exact Bool.false_ne_true filtered.1

end Pybind

end AresCommon.PyUtil
