import Mathlib.Data.List.Nodup
import DatatypeLowering.Lowering.Table
/-!
# Custom types under registration

A lowering table is filled by calls: a custom type registered under a name and a code, or a
lowering function registered for a target and a key (`Registration`). Started from the empty
table, any sequence of calls keeps the custom types consistent (`LoweringTable.TypesConsistent`):
each name and each code is registered once, and no native code is. So names and codes correspond
one to one, and a code the pass takes for custom is never native.

Registering a type checks, in order, that its code is not native, that its name is free and that
its code is free; it fails at the first check that does not pass and changes nothing. Registering
a lowering function leaves the types alone.

Main statement: `registration_pairs_names_and_codes`.
-/

namespace DatatypeLowering

/-- One registration call on a lowering table: a custom type with its name and code, or a
lowering function for a target and key. -/
inductive Registration (α : Type) where
  | type (name : String) (code : TypeCode)
  | lowering (target : String) (key : LoweringKey) (fn : α)

theorem TypeCode.isNative_eq_false_iff {code : TypeCode} :
    code.isNative = false ↔ 3 < code.toNat := by
  simp [isNative]

namespace LoweringTable

variable {α : Type}

/-- The table after a registration call; a refused type leaves it as it was. -/
def perform (t : LoweringTable α) : Registration α → LoweringTable α
  | .type name code =>
    match t.registerType name code with
    | .ok t' => t'
    | .error _ => t
  | .lowering target key fn => t.register target key fn

def performAll (t : LoweringTable α) (rs : List (Registration α)) : LoweringTable α :=
  rs.foldl perform t

/-- The custom types of a table are consistent: each name and each code is registered once, and
no native code is. -/
structure TypesConsistent (t : LoweringTable α) : Prop where
  names_nodup : (t.types.map Prod.fst).Nodup
  codes_nodup : (t.types.map Prod.snd).Nodup
  not_native : ∀ p ∈ t.types, p.2.isNative = false

variable {t t' : LoweringTable α} {name : String} {code : TypeCode}

/-! ## Reading the types -/

/-- In a list where a key picks out at most one entry, the first entry found with a key is the
one entry with it. -/
theorem find?_key_eq_some_iff {β κ : Type} [BEq κ] [LawfulBEq κ] {key : β → κ} {l : List β}
    (h : (l.map key).Nodup) {k : κ} {p : β} :
    l.find? (key · == k) = some p ↔ p ∈ l ∧ key p = k := by
  constructor
  · intro hp
    exact ⟨List.mem_of_find?_eq_some hp, by simpa using List.find?_some hp⟩
  · rintro ⟨hp, rfl⟩
    cases hf : l.find? (key · == key p) with
    | none => exact absurd hp (by simpa using List.find?_eq_none.1 hf p)
    | some q =>
      have hq : key q = key p := by simpa using List.find?_some hf
      rw [List.inj_on_of_nodup_map h (List.mem_of_find?_eq_some hf) hp hq]

theorem typeCode?_eq_none_iff : t.typeCode? name = none ↔ ∀ c, (name, c) ∉ t.types := by
  simp only [typeCode?, Option.map_eq_none_iff, List.find?_eq_none, beq_iff_eq]
  exact ⟨fun h c hc => h _ hc rfl, fun h p hp hname => h p.2 (by rw [← hname]; exact hp)⟩

theorem typeName?_eq_none_iff : t.typeName? code = none ↔ ∀ n, (n, code) ∉ t.types := by
  simp only [typeName?, Option.map_eq_none_iff, List.find?_eq_none, beq_iff_eq]
  exact ⟨fun h n hn => h _ hn rfl, fun h p hp hcode => h p.1 (by rw [← hcode]; exact hp)⟩

theorem isRegistered_iff : t.isRegistered code = true ↔ ∃ n, (n, code) ∈ t.types := by
  simp [isRegistered, List.any_eq_true]

theorem isRegistered_eq_false_iff : t.isRegistered code = false ↔ t.typeName? code = none := by
  rw [typeName?_eq_none_iff, ← Bool.not_eq_true, isRegistered_iff]
  simp

theorem typeCode?_eq_some_iff (h : (t.types.map Prod.fst).Nodup) :
    t.typeCode? name = some code ↔ (name, code) ∈ t.types := by
  simp only [typeCode?, Option.map_eq_some_iff, find?_key_eq_some_iff h]
  exact ⟨fun ⟨p, ⟨hp, hname⟩, hcode⟩ => hname ▸ hcode ▸ hp,
    fun h => ⟨_, ⟨h, rfl⟩, rfl⟩⟩

theorem typeName?_eq_some_iff (h : (t.types.map Prod.snd).Nodup) :
    t.typeName? code = some name ↔ (name, code) ∈ t.types := by
  simp only [typeName?, Option.map_eq_some_iff, find?_key_eq_some_iff h]
  exact ⟨fun ⟨p, ⟨hp, hcode⟩, hname⟩ => hname ▸ hcode ▸ hp,
    fun h => ⟨_, ⟨h, rfl⟩, rfl⟩⟩

/-! ## One registration -/

/-- A type registration refuses a native code first. -/
theorem registerType_of_native (h : code.toNat ≤ 3) :
    t.registerType name code = .error (.reservedTypeCode code) := by
  simp [registerType, TypeCode.isNative, h]

/-- Past the code check, a type registration refuses a name in use, naming its code. -/
theorem registerType_of_name_taken {existing : TypeCode} (hcode : 3 < code.toNat)
    (h : t.typeCode? name = some existing) :
    t.registerType name code = .error (.duplicateTypeName name existing) := by
  have hnative : code.isNative = false := TypeCode.isNative_eq_false_iff.2 hcode
  simp [registerType, hnative, h]

/-- Past the code and name checks, a type registration refuses a code in use, naming its type. -/
theorem registerType_of_code_taken {existing : String} (hcode : 3 < code.toNat)
    (hname : t.typeCode? name = none) (h : t.typeName? code = some existing) :
    t.registerType name code = .error (.duplicateTypeCode code existing) := by
  have hnative : code.isNative = false := TypeCode.isNative_eq_false_iff.2 hcode
  simp [registerType, hnative, hname, h]

/-- A type registration that succeeds passed all three checks and adds the one pair. -/
theorem registerType_eq_ok (h : t.registerType name code = .ok t') :
    code.isNative = false ∧ t.typeCode? name = none ∧ t.typeName? code = none ∧
      t'.types = t.types ++ [(name, code)] := by
  unfold registerType at h
  split at h
  · cases h
  · next hnative =>
    split at h
    · cases h
    · next hname =>
      split at h
      · cases h
      · next hcode =>
        cases h
        exact ⟨by simpa using hnative, hname, hcode, rfl⟩

/-- A type registration succeeds exactly when the code is not native and neither the name nor
the code is registered. -/
theorem registerType_isOk_iff :
    (∃ t', t.registerType name code = .ok t') ↔
      3 < code.toNat ∧ t.typeCode? name = none ∧ t.isRegistered code = false := by
  rw [isRegistered_eq_false_iff, ← TypeCode.isNative_eq_false_iff]
  constructor
  · rintro ⟨t', h⟩
    obtain ⟨hnative, hname, hcode, -⟩ := registerType_eq_ok h
    exact ⟨hnative, hname, hcode⟩
  · rintro ⟨hnative, hname, hcode⟩
    exact ⟨{ t with types := t.types ++ [(name, code)] },
      by simp [registerType, hnative, hname, hcode]⟩

@[simp] theorem types_register (target : String) (key : LoweringKey) (fn : α) :
    (t.register target key fn).types = t.types := by
  unfold register
  split <;> rfl

theorem types_perform_of_error {err : RegistrationError}
    (h : t.registerType name code = .error err) :
    (t.perform (.type name code)).types = t.types := by
  simp [perform, h]

/-! ## The invariant -/

theorem typesConsistent_empty : (empty : LoweringTable α).TypesConsistent :=
  ⟨List.nodup_nil, List.nodup_nil, by simp [empty]⟩

theorem TypesConsistent.of_types_eq (hc : t.TypesConsistent) (h : t'.types = t.types) :
    t'.TypesConsistent := by
  obtain ⟨hnames, hcodes, hnative⟩ := hc
  exact ⟨h ▸ hnames, h ▸ hcodes, h ▸ hnative⟩

/-- A successful type registration keeps the types consistent: the new name and code were
free, and the code is not native. -/
theorem TypesConsistent.registerType (hc : t.TypesConsistent)
    (h : t.registerType name code = .ok t') : t'.TypesConsistent := by
  obtain ⟨hnative, hname, hcode, htypes⟩ := registerType_eq_ok h
  have hname' : name ∉ t.types.map Prod.fst := by
    simpa using typeCode?_eq_none_iff.1 hname
  have hcode' : code ∉ t.types.map Prod.snd := by
    simpa using fun n => typeName?_eq_none_iff.1 hcode n
  refine ⟨?_, ?_, ?_⟩
  · rw [htypes, List.map_append, List.map_singleton]
    exact hc.names_nodup.append (List.nodup_singleton _) (by simpa using hname')
  · rw [htypes, List.map_append, List.map_singleton]
    exact hc.codes_nodup.append (List.nodup_singleton _) (by simpa using hcode')
  · intro p hp
    rw [htypes, List.mem_append, List.mem_singleton] at hp
    rcases hp with hp | rfl
    · exact hc.not_native p hp
    · exact hnative

theorem TypesConsistent.perform (hc : t.TypesConsistent) (r : Registration α) :
    (t.perform r).TypesConsistent := by
  cases r with
  | type name code =>
    cases h : t.registerType name code with
    | error err => exact hc.of_types_eq (types_perform_of_error h)
    | ok t' =>
      have hperform : t.perform (.type name code) = t' := by simp [LoweringTable.perform, h]
      rw [hperform]
      exact hc.registerType h
  | lowering target key fn => exact hc.of_types_eq (types_register target key fn)

theorem TypesConsistent.performAll (hc : t.TypesConsistent) (rs : List (Registration α)) :
    (t.performAll rs).TypesConsistent := by
  induction rs generalizing t with
  | nil => exact hc
  | cons r rs ih => exact ih (hc.perform r)

/-- In a consistent table, a name has a code exactly when that code has the name. -/
theorem TypesConsistent.typeCode?_eq_some_iff (hc : t.TypesConsistent) :
    t.typeCode? name = some code ↔ t.typeName? code = some name := by
  rw [LoweringTable.typeCode?_eq_some_iff hc.names_nodup,
    LoweringTable.typeName?_eq_some_iff hc.codes_nodup]

/-- In a consistent table, a registered code is not native. -/
theorem TypesConsistent.lt_toNat_of_isRegistered (hc : t.TypesConsistent)
    (h : t.isRegistered code = true) : 3 < code.toNat := by
  obtain ⟨n, hn⟩ := isRegistered_iff.1 h
  exact TypeCode.isNative_eq_false_iff.1 (hc.not_native _ hn)

end LoweringTable

/-- After any sequence of registrations from the empty table, names and codes of custom types
correspond one to one and no native code is registered. Registering a type then succeeds exactly
when its code is not native and its name and code are free; otherwise it fails for a native
code, else for a name in use (with that name's code), else for a code in use (with that code's
name). A refused type and any lowering function leave the types as they were. -/
theorem registration_pairs_names_and_codes {α : Type} (rs : List (Registration α)) :
    let t := (LoweringTable.empty : LoweringTable α).performAll rs
    (∀ name code, t.typeCode? name = some code ↔ t.typeName? code = some name) ∧
      (∀ code, t.isRegistered code = true → 3 < code.toNat) ∧
      (∀ name code, (∃ t', t.registerType name code = .ok t') ↔
        3 < code.toNat ∧ t.typeCode? name = none ∧ t.isRegistered code = false) ∧
      (∀ name code, code.toNat ≤ 3 →
        t.registerType name code = .error (.reservedTypeCode code)) ∧
      (∀ name code existing, 3 < code.toNat → t.typeCode? name = some existing →
        t.registerType name code = .error (.duplicateTypeName name existing)) ∧
      (∀ name code existing, 3 < code.toNat → t.typeCode? name = none →
        t.typeName? code = some existing →
        t.registerType name code = .error (.duplicateTypeCode code existing)) ∧
      (∀ name code err, t.registerType name code = .error err →
        (t.perform (.type name code)).types = t.types) ∧
      (∀ target key fn, (t.perform (.lowering target key fn)).types = t.types) := by
  intro t
  have hc : t.TypesConsistent := LoweringTable.typesConsistent_empty.performAll rs
  exact ⟨fun _ _ => hc.typeCode?_eq_some_iff, fun _ => hc.lt_toNat_of_isRegistered,
    fun _ _ => LoweringTable.registerType_isOk_iff,
    fun _ _ => LoweringTable.registerType_of_native,
    fun _ _ _ => LoweringTable.registerType_of_name_taken,
    fun _ _ _ => LoweringTable.registerType_of_code_taken,
    fun _ _ _ => LoweringTable.types_perform_of_error,
    fun target key fn => LoweringTable.types_register target key fn⟩

end DatatypeLowering
