import DatatypeLowering.Proofs.Registry
import DatatypeLowering.Proofs.Lookups
/-!
# Finding lowering functions

A lowering table keeps one function per target and key. Registering a function under a target and
key that have one already replaces that function in place; under new ones, it adds an entry. So
after any sequence of registration calls a lookup finds the function of the last call for exactly
that target and key, if there was one (`LoweringTable.lookup?_performAll`), and the lookups of the
three kinds of key find the same function. Targets are compared as they are, the empty one
included, and a cast's key is the ordered pair of its destination and source codes. The table
has one entry for each target and key registered, however often
(`LoweringTable.len_performAll_empty`).

Registering a function changes no custom type. The pass looks up only keys that name a registered
custom type (`Lowerer.isCustomKey_of_mem_lookups`), and a function reaches a node only through its
lookup, so a function registered under codes that no custom type has is never used.

Main statement: `lookup_finds_last_registration`.
-/

namespace DatatypeLowering

variable {α : Type}

namespace Registration

/-- The function a call registers for a target and key, if it registers one for them. -/
def loweringFor? (target : String) (key : LoweringKey) : Registration α → Option α
  | .lowering target' key' fn => if target' = target ∧ key' = key then some fn else none
  | .type .. => none

def loweringPair? : Registration α → Option (String × LoweringKey)
  | .lowering target key _ => some (target, key)
  | .type .. => none

/-- The function of the last call among `rs` that registers one for a target and key. -/
def lastLowering? (rs : List (Registration α)) (target : String) (key : LoweringKey) :
    Option α :=
  rs.reverse.findSome? (loweringFor? target key)

theorem lastLowering?_cons (r : Registration α) (rs : List (Registration α)) (target : String)
    (key : LoweringKey) :
    lastLowering? (r :: rs) target key =
      (lastLowering? rs target key).or (r.loweringFor? target key) := by
  rw [lastLowering?, lastLowering?, List.reverse_cons, List.findSome?_append]
  congr 1
  simp only [List.findSome?_cons, List.findSome?_nil]
  cases r.loweringFor? target key <;> rfl

end Registration

namespace LoweringTable

variable {t : LoweringTable α}

theorem matches_eq_true_iff {e : LoweringEntry α} {target : String} {key : LoweringKey} :
    e.matches target key = true ↔ e.target = target ∧ e.key = key := by
  simp [LoweringEntry.matches]

@[simp] theorem matches_replace (e : LoweringEntry α) (target target' : String)
    (key key' : LoweringKey) (fn : α) :
    (if e.matches target key then { e with fn := fn } else e).matches target' key' =
      e.matches target' key' := by
  split <;> rfl

/-! ## One registration -/

/-- After registering a function for a target and key, a lookup of them finds it, and a lookup
of any other target or key finds what it found before. -/
theorem lookup?_register (target target' : String) (key key' : LoweringKey) (fn : α) :
    (t.register target key fn).lookup? target' key' =
      if target = target' ∧ key = key' then some fn else t.lookup? target' key' := by
  unfold register
  split
  · next hany =>
    -- the entry of `target` and `key` is replaced in place; no entry changes its target or key
    simp only [lookup?, List.find?_map, Function.comp_def, matches_replace, Option.map_map]
    split
    · next hk =>
      obtain ⟨rfl, rfl⟩ := hk
      obtain ⟨e, he⟩ :=
        Option.isSome_iff_exists.1 (List.find?_isSome.2 (List.any_eq_true.1 hany))
      have hm := List.find?_some he
      simp [he, hm]
    · next hk =>
      cases he : t.lowerings.find? (·.matches target' key') with
      | none => rfl
      | some e =>
        have hm := List.find?_some he
        simp only [matches_eq_true_iff] at hm
        have hne : e.matches target key = false := by
          rw [← Bool.not_eq_true, matches_eq_true_iff]
          rintro ⟨h₁, h₂⟩
          exact hk ⟨h₁ ▸ hm.1, h₂ ▸ hm.2⟩
        simp [hne]
  · next hany =>
    simp only [lookup?, List.find?_append]
    split
    · next hk =>
      obtain ⟨rfl, rfl⟩ := hk
      have hnone : t.lowerings.find? (·.matches target key) = none := by
        simpa using hany
      rw [hnone, Option.none_or]
      simp [LoweringEntry.matches]
    · next hk =>
      have hnew :
          [(⟨target, key, fn⟩ : LoweringEntry α)].find? (·.matches target' key') = none := by
        simpa [LoweringEntry.matches] using hk
      simp [hnew]

theorem lowerings_registerType {name : String} {code : TypeCode} {t' : LoweringTable α}
    (h : t.registerType name code = .ok t') : t'.lowerings = t.lowerings := by
  unfold registerType at h
  split at h
  · cases h
  · split at h
    · cases h
    · split at h
      · cases h
      · cases h
        rfl

theorem lowerings_perform_type (name : String) (code : TypeCode) :
    (t.perform (.type name code)).lowerings = t.lowerings := by
  cases h : t.registerType name code with
  | error err => simp [perform, h]
  | ok t' =>
    simp only [perform, h]
    exact lowerings_registerType h

theorem lookup?_perform (r : Registration α) (target : String) (key : LoweringKey) :
    (t.perform r).lookup? target key = (r.loweringFor? target key).or (t.lookup? target key) := by
  cases r with
  | type name code =>
    simp [lookup?, lowerings_perform_type, Registration.loweringFor?]
  | lowering target' key' fn =>
    rw [perform, lookup?_register]
    split <;> simp [Registration.loweringFor?, *]

/-- A cast's function is no function of the reversed cast, unless the cast's two codes agree. -/
theorem lookup?_perform_reversed_cast (target : String) (dst src : TypeCode) (fn : α) :
    (t.perform (.lowering target (.cast dst src) fn)).lookup? target (.cast src dst) =
      if dst = src then some fn else t.lookup? target (.cast src dst) := by
  rw [perform, lookup?_register]
  by_cases h : dst = src
  · subst h
    simp
  · have hne : ¬(target = target ∧ LoweringKey.cast dst src = .cast src dst) := by
      simp [h]
    rw [if_neg hne, if_neg h]

theorem lookupByKind?_eq (target : String) (key : LoweringKey) :
    t.lookupByKind? target key = t.lookup? target key := by
  cases key <;> rfl

theorem isRegistered_perform_lowering (target : String) (key : LoweringKey) (fn : α)
    (code : TypeCode) :
    (t.perform (.lowering target key fn)).isRegistered code = t.isRegistered code := by
  simp [perform, isRegistered]

/-! ## Sequences of registrations -/

/-- After registration calls, a lookup finds the function of the last call for its target and
key, and what it found before if there is none. -/
theorem lookup?_performAll (rs : List (Registration α)) (target : String) (key : LoweringKey) :
    (t.performAll rs).lookup? target key =
      (Registration.lastLowering? rs target key).or (t.lookup? target key) := by
  induction rs generalizing t with
  | nil => simp [performAll, Registration.lastLowering?]
  | cons r rs ih =>
    rw [performAll, List.foldl_cons, ← performAll, ih, lookup?_perform,
      Registration.lastLowering?_cons, Option.or_assoc]

/-- A table built from nothing finds, for a target and key, the function of the last registration
for them. -/
theorem lookup?_performAll_empty (rs : List (Registration α)) (target : String)
    (key : LoweringKey) :
    (empty.performAll rs).lookup? target key = Registration.lastLowering? rs target key := by
  rw [lookup?_performAll]
  simp [lookup?, empty]

def pairs (t : LoweringTable α) : List (String × LoweringKey) :=
  t.lowerings.map fun e => (e.target, e.key)

theorem any_matches_iff {target : String} {key : LoweringKey} :
    t.lowerings.any (·.matches target key) = true ↔ (target, key) ∈ t.pairs := by
  simp only [List.any_eq_true, matches_eq_true_iff, pairs, List.mem_map, Prod.mk.injEq]

theorem pairs_register (target : String) (key : LoweringKey) (fn : α) :
    (t.register target key fn).pairs =
      if (target, key) ∈ t.pairs then t.pairs else t.pairs ++ [(target, key)] := by
  unfold register
  split
  · next hany =>
    rw [if_pos (any_matches_iff.1 hany)]
    simp only [pairs, List.map_map]
    refine List.map_congr_left fun e _ => ?_
    simp only [Function.comp_apply]
    split <;> rfl
  · next hany =>
    rw [if_neg fun h => hany (any_matches_iff.2 h)]
    simp [pairs]

theorem pairs_perform (r : Registration α) :
    (t.perform r).pairs =
      match r.loweringPair? with
      | some p => if p ∈ t.pairs then t.pairs else t.pairs ++ [p]
      | none => t.pairs := by
  cases r with
  | type name code => simp [pairs, lowerings_perform_type, Registration.loweringPair?]
  | lowering target key fn => exact pairs_register target key fn

theorem nodup_pairs_performAll (h : t.pairs.Nodup) (rs : List (Registration α)) :
    (t.performAll rs).pairs.Nodup := by
  induction rs generalizing t with
  | nil => exact h
  | cons r rs ih =>
    rw [performAll, List.foldl_cons, ← performAll]
    apply ih
    rw [pairs_perform]
    split
    · next p _ =>
      split
      · exact h
      · next hp => exact h.append (List.nodup_singleton p) (by simpa using hp)
    · exact h

/-- The targets and keys with an entry are those the table had and those the calls registered. -/
theorem toFinset_pairs_performAll (rs : List (Registration α)) :
    (t.performAll rs).pairs.toFinset =
      t.pairs.toFinset ∪ (rs.filterMap Registration.loweringPair?).toFinset := by
  induction rs generalizing t with
  | nil => simp [performAll]
  | cons r rs ih =>
    rw [performAll, List.foldl_cons, ← performAll, ih, pairs_perform]
    cases r with
    | type name code => simp [Registration.loweringPair?, List.filterMap_cons]
    | lowering target key fn =>
      simp only [Registration.loweringPair?, List.filterMap_cons, List.toFinset_cons]
      split
      · next hp =>
        rw [Finset.union_insert,
          Finset.insert_eq_of_mem (Finset.mem_union_left _ (List.mem_toFinset.2 hp))]
      · simp only [List.toFinset_append, List.toFinset_cons, List.toFinset_nil, Finset.union_assoc,
          Finset.insert_union, Finset.empty_union, Finset.union_insert]

/-- From the empty table, the number of entries is the number of distinct targets and keys that
functions were registered for. -/
theorem len_performAll_empty (rs : List (Registration α)) :
    ((empty : LoweringTable α).performAll rs).len =
      (rs.filterMap Registration.loweringPair?).toFinset.card := by
  have hnodup := nodup_pairs_performAll (t := (empty : LoweringTable α)) List.nodup_nil rs
  have hset := toFinset_pairs_performAll (t := (empty : LoweringTable α)) rs
  calc ((empty : LoweringTable α).performAll rs).len
      = ((empty : LoweringTable α).performAll rs).pairs.length := by simp [len, pairs]
    _ = ((empty : LoweringTable α).performAll rs).pairs.toFinset.card :=
        (List.toFinset_card_of_nodup hnodup).symm
    _ = (rs.filterMap Registration.loweringPair?).toFinset.card := by
        rw [hset]
        simp [pairs, empty]

/-! ## What the pass looks up -/

/-- Whether a key names a registered custom type: a cast's destination or source code, or the
code of a float immediate or of a binary operation. -/
def isCustomKey (t : LoweringTable α) : LoweringKey → Bool
  | .cast dst src => t.isRegistered dst || t.isRegistered src
  | .floatImm code => t.isRegistered code
  | .binary _ code => t.isRegistered code

theorem isCustomKey_of_functionKey? {e : Expr} {key : LoweringKey}
    (h : t.functionKey? e = some key) : t.isCustomKey key = true := by
  cases e with
  | cast dtype src | floatImm dtype _ | binary _ dtype _ _ =>
    simp only [functionKey?] at h
    split at h
    · next hreg =>
      cases h
      exact hreg
    · cases h
  | _ => cases h

theorem isCustomKey_of_mem_stmtKeys {s : Stmt} {key : LoweringKey} (h : key ∈ t.stmtKeys s) :
    t.isCustomKey key = true := by
  obtain ⟨n, -, hn⟩ := List.mem_filterMap.1 h
  cases n with
  | expr e => exact isCustomKey_of_functionKey? hn
  | stmt _ => cases hn

end LoweringTable

namespace Lowerer

variable (L : Lowerer α)

theorem mem_lookupsFor {ks : List LoweringKey} {x : String × LoweringKey × Bool}
    (h : x ∈ L.lookupsFor ks) : x.2.1 ∈ ks := by
  obtain ⟨k, hk, rfl⟩ := List.mem_map.1 h
  rcases List.mem_append.1 hk with hk | hk
  · exact (List.takeWhile_sublist _).subset hk
  · obtain ⟨k', hfind⟩ : ∃ k', ks.find? (!L.provides ·) = some k' := by
      cases hf : ks.find? (!L.provides ·) with
      | none => simp [hf] at hk
      | some k' => exact ⟨k', rfl⟩
    rw [hfind, Option.mem_toList, Option.some_inj] at hk
    rw [← hk]
    exact List.mem_of_find?_eq_some hfind

/-- The pass looks up only keys that name a registered custom type. -/
theorem isCustomKey_of_mem_lookups {s : Stmt} {x : String × LoweringKey × Bool}
    (h : x ∈ (L.lowerStmt s).journal.lookups) : L.table.isCustomKey x.2.1 = true := by
  obtain ⟨d, hd, hl, -⟩ := L.performs_rewriteStmt s []
  rw [lowerStmt_journal] at h
  change x ∈ ((s.rewrite L.rewriter).run.run []).2.lookups at h
  rw [hd, List.nil_append, hl] at h
  exact L.table.isCustomKey_of_mem_stmtKeys (L.mem_lookupsFor h)

end Lowerer

/-- After any sequence of registrations from the empty table, a lookup for a target and key
finds the function of the last call that registered one for exactly that target and key, and
nothing if no call did; the lookups of casts, float immediates and binary operations find the
same, and asking by a key's kind is asking by the key. A cast's key is the ordered pair of its
codes: registering for one order leaves the other alone. The table has one entry for each
distinct target and key registered. Registering a function changes no custom type, and the pass
looks up only keys that name a registered custom type. -/
theorem lookup_finds_last_registration (rs : List (Registration α)) :
    let t := (LoweringTable.empty : LoweringTable α).performAll rs
    (∀ target key, t.lookup? target key = Registration.lastLowering? rs target key) ∧
      (∀ target dst src,
        t.lookupCast? target dst src = Registration.lastLowering? rs target (.cast dst src)) ∧
      (∀ target code,
        t.lookupImmediate? target code = Registration.lastLowering? rs target (.floatImm code)) ∧
      (∀ target op code,
        t.lookupOp? target op code = Registration.lastLowering? rs target (.binary op code)) ∧
      (∀ target key, t.lookupByKind? target key = t.lookup? target key) ∧
      (∀ target dst src fn,
        (t.perform (.lowering target (.cast dst src) fn)).lookup? target (.cast src dst) =
          if dst = src then some fn else t.lookup? target (.cast src dst)) ∧
      t.len = (rs.filterMap Registration.loweringPair?).toFinset.card ∧
      (∀ target key fn code,
        (t.perform (.lowering target key fn)).isRegistered code = t.isRegistered code) ∧
      (∀ (apply : α → Expr → Expr) target s,
        ∀ x ∈ ((⟨t, target, apply⟩ : Lowerer α).lowerStmt s).journal.lookups,
          t.isCustomKey x.2.1 = true) :=
  let hlookup := LoweringTable.lookup?_performAll_empty rs
  ⟨hlookup, fun target _ _ => hlookup target _, fun target _ => hlookup target _,
    fun target _ _ => hlookup target _, LoweringTable.lookupByKind?_eq,
    LoweringTable.lookup?_perform_reversed_cast, LoweringTable.len_performAll_empty rs,
    LoweringTable.isRegistered_perform_lowering,
    fun apply target _ _ hx => Lowerer.isCustomKey_of_mem_lookups ⟨_, target, apply⟩ hx⟩

/-- Two registrations for one target and key, with one for a cast under the empty target between
them: the later function replaces the earlier, the table has two entries, and lowering an
addition of the custom type looks up its key, which names the type. -/
theorem later_registration_replaces_earlier :
    let rs : List (Registration Nat) :=
      [.type "posit" ⟨200⟩, .lowering "cpu" (.binary .add ⟨200⟩) 1,
        .lowering "" (.cast ⟨200⟩ ⟨0⟩) 2, .lowering "cpu" (.binary .add ⟨200⟩) 3]
    let t := (LoweringTable.empty : LoweringTable Nat).performAll rs
    let c : DataType := .custom ⟨200⟩ 32
    let s : Stmt := .evaluate (.binary .add c (.var c "x") (.var c "y"))
    t.lookup? "cpu" (.binary .add ⟨200⟩) = some 3 ∧ t.lookupCast? "" ⟨200⟩ ⟨0⟩ = some 2 ∧
      t.lookup? "cpu" (.cast ⟨200⟩ ⟨0⟩) = none ∧ t.len = 2 ∧
      ("cpu", .binary .add ⟨200⟩, true) ∈
        ((⟨t, "cpu", fun _ e => e⟩ : Lowerer Nat).lowerStmt s).journal.lookups ∧
      t.isCustomKey (.binary .add ⟨200⟩) = true := by
  intro rs t c s
  obtain ⟨hlookup, hcast, -, -, -, -, hlen, -, hpass⟩ := lookup_finds_last_registration rs
  have hmem : ("cpu", .binary .add ⟨200⟩, true) ∈
      ((⟨t, "cpu", fun _ e => e⟩ : Lowerer Nat).lowerStmt s).journal.lookups := by
    decide
  refine ⟨(hlookup _ _).trans (by decide), (hcast _ _ _).trans (by decide),
    (hlookup _ _).trans (by decide), hlen.trans (by decide), hmem, hpass _ _ _ _ hmem⟩

end DatatypeLowering
