import Mathlib.Data.List.Perm.Basic
import Retry.Proofs.Settings.Documents
import Retry.Proofs.Binary64.Product

/-! Reading and writing documents. The document of settings has one member for the kind and one
for each field that is written at all, so it describes the settings it was made from. Members that
only repeat a default may be left out of it: reading puts the default back, which has the same
value, though a negative zero comes back as a positive one. -/
namespace Retry.Settings

namespace Field

/-- How a value is written. No cap is not written at all. -/
def document? : (field : Field) → field.Value → Option Json
  | .maxAttempts, (n : UInt32) => some (.integer n.toNat)
  | .delayMs, (n : UInt64) | .baseDelayMs, (n : UInt64) | .budgetMs, (n : UInt64) =>
    some (.integer n.toNat)
  | .multiplier, (x : Binary64) | .jitter, (x : Binary64) => some (.float x)
  | .maxDelayMs, (cap : Option UInt64) => cap.map fun n => .integer n.toNat

/-- Equality of values, with the numbers compared by value. -/
def same : (field : Field) → field.Value → field.Value → Bool
  | .maxAttempts, (n : UInt32), (n' : UInt32) => n == n'
  | .delayMs, (n : UInt64), (n' : UInt64) | .baseDelayMs, (n : UInt64), (n' : UInt64)
  | .budgetMs, (n : UInt64), (n' : UInt64) => n == n'
  | .multiplier, (x : Binary64), (x' : Binary64) | .jitter, (x : Binary64), (x' : Binary64) =>
    x.same x'
  | .maxDelayMs, (cap : Option UInt64), (cap' : Option UInt64) => cap == cap'

variable {field : Field} {v v' : field.Value} {j : Json}

theorem reads_of_document? (written : field.document? v = some j) : field.Reads j v := by
  cases field with
  | maxAttempts | delayMs | baseDelayMs | budgetMs => exact (Option.some.inj written).symm
  | multiplier | jitter => exact .inl (Option.some.inj written).symm
  | maxDelayMs =>
    obtain ⟨n, given, rfl⟩ := Option.map_eq_some_iff.mp written
    exact .inr ⟨n, rfl, given⟩

/-- What is not written is the default. -/
theorem default?_of_unwritten (unwritten : field.document? v = none) : field.default? = some v := by
  cases field with
  | maxDelayMs => exact congrArg some (Option.map_eq_none_iff.mp unwritten).symm
  | _ => contradiction

/-- A document stands for one value at most. -/
theorem eq_of_reads (read : field.Reads j v) (read' : field.Reads j v') : v = v' := by
  -- What it stands for is what it leaves in a draft.
  have put : ({} : Draft).put field j = .ok (({} : Draft).set field v) :=
    Draft.put_eq_ok_iff.mpr ⟨v, read, rfl⟩
  have put' : ({} : Draft).put field j = .ok (({} : Draft).set field v') :=
    Draft.put_eq_ok_iff.mpr ⟨v', read', rfl⟩
  have same : ({} : Draft).set field v = ({} : Draft).set field v' :=
    Except.ok.inj (put.symm.trans put')
  have held := congrArg (Draft.get? · field) same
  simpa only [Draft.get?_set_self, Option.some.injEq] using held

end Field

/-- The members of the document of settings. -/
def members (c : Settings) : List (String × Json) :=
  (kindKey, .string c.kind.name) :: c.kind.fields.filterMap fun field =>
    (c.get? field).bind fun v => (field.document? v).map fun j => (field.name, j)

theorem encode_eq (c : Settings) : c.encode = .object c.members := by
  cases c with
  | exponential _ _ _ cap _ => cases cap <;> rfl
  | _ => rfl

variable {c c' : Settings} {field : Field} {j : Json} {kept : List (String × Json)}

theorem mem_members_iff : (field.name, j) ∈ c.members ↔
    ∃ v, c.get? field = some v ∧ field.document? v = some j := by
  simp only [members, List.mem_cons, Prod.mk.injEq, field.name_ne_kindKey, false_and, false_or,
    List.mem_filterMap, Option.bind_eq_some_iff, Option.map_eq_some_iff]
  constructor
  · rintro ⟨field', -, v, held, j', written, named, rfl⟩
    obtain rfl := Field.name_injective named
    exact ⟨v, held, written⟩
  · rintro ⟨v, held, written⟩
    exact ⟨field, exists_get?_iff.mp ⟨v, held⟩, v, held, j, written, rfl, rfl⟩

theorem kind_mem_members_iff : (kindKey, j) ∈ c.members ↔ j = .string c.kind.name := by
  have unlisted : (kindKey, j) ∉ c.kind.fields.filterMap fun field =>
      (c.get? field).bind fun v => (field.document? v).map fun j => (field.name, j) := by
    intro listed
    obtain ⟨field, -, held⟩ := List.mem_filterMap.mp listed
    obtain ⟨v, -, written⟩ := Option.bind_eq_some_iff.mp held
    obtain ⟨j', -, same⟩ := Option.map_eq_some_iff.mp written
    exact field.name_ne_kindKey (congrArg Prod.fst same)
  simp only [members, List.mem_cons, Prod.mk.injEq, true_and, unlisted, or_false]

theorem keys_members_sublist (c : Settings) : (c.members.map Prod.fst).Sublist c.kind.keys := by
  simp only [members, Kind.keys, List.map_cons, List.cons_sublist_cons]
  generalize c.kind.fields = fields
  induction fields with
  | nil => simp
  | cons field rest ih =>
    rw [List.filterMap_cons, List.map_cons]
    split
    · exact ih.cons _
    · next member written =>
      obtain ⟨v, -, rest⟩ := Option.bind_eq_some_iff.mp written
      obtain ⟨j, -, rfl⟩ := Option.map_eq_some_iff.mp rest
      exact ih.cons_cons _

theorem distinct_of_sublist (part : kept.Sublist c.members) : (kept.map Prod.fst).Nodup :=
  ((part.map Prod.fst).trans (keys_members_sublist c)).nodup (Kind.keys_nodup c.kind)

theorem describes_members (c : Settings) : Describes c.members c := by
  refine ⟨kind_mem_members_iff.mpr rfl, fun field applies => ?_⟩
  obtain ⟨v, held⟩ := exists_get?_iff.mpr applies
  refine ⟨v, held, ?_⟩
  cases written : field.document? v with
  | none =>
    refine .inr ⟨fun j listed => ?_, Field.default?_of_unwritten written⟩
    obtain ⟨v', held', written'⟩ := mem_members_iff.mp listed
    rw [held] at held'
    cases held'
    rw [written] at written'
    contradiction
  | some j =>
    exact .inl ⟨j, mem_members_iff.mpr ⟨v, held, written⟩, Field.reads_of_document? written⟩

theorem decode_encode (c : Settings) : decode c.encode = .ok c := by
  rw [encode_eq, decode_object_eq_ok_iff_describes (distinct_of_sublist (List.Sublist.refl _))]
  exact describes_members c

/-- Whether the numbers are finite. -/
def finite : Settings → Bool
  | .exponential _ _ multiplier _ jitter => multiplier.isFinite && jitter.isFinite
  | _ => true

theorem same_self_of_finite (finite : c.finite = true) {v : field.Value}
    (held : c.get? field = some v) : field.same v v = true := by
  have number {x : Binary64} (small : x.isFinite = true) : x.same x = true := by
    have proper : x ≠ .nan := by
      rintro rfl
      contradiction
    rw [Binary64.same, Binary64.le_refl proper, Bool.and_self]
  cases field with
  | multiplier | jitter =>
    cases c with
    | exponential n base multiplier cap jitter =>
      cases held
      simp only [Settings.finite, Bool.and_eq_true] at finite
      first | exact number finite.1 | exact number finite.2
    | _ => contradiction
  | _ => exact beq_self_eq_true _

/-- Equality of settings is equality of their fields. -/
theorem same_of_values (kind : c.kind = c'.kind)
    (values : ∀ field ∈ c.kind.fields, ∃ v v', c.get? field = some v ∧ c'.get? field = some v' ∧
      field.same v v' = true) : c.same c' = true := by
  have own (field : Field) {v v' : field.Value} (held : c.get? field = some v)
      (held' : c'.get? field = some v') : field.same v v' = true := by
    obtain ⟨w, w', first, second, same⟩ := values field (exists_get?_iff.mp ⟨v, held⟩)
    cases held.symm.trans first
    cases held'.symm.trans second
    exact same
  cases c with
  | fixed n delay =>
    cases c' with
    | fixed n' delay' =>
      simp only [Settings.same, Bool.and_eq_true]
      exact ⟨own .maxAttempts rfl rfl, own .delayMs rfl rfl⟩
    | _ => contradiction
  | exponential n base multiplier cap jitter =>
    cases c' with
    | exponential n' base' multiplier' cap' jitter' =>
      simp only [Settings.same, Bool.and_eq_true]
      exact ⟨⟨⟨⟨own .maxAttempts rfl rfl, own .baseDelayMs rfl rfl⟩, own .multiplier rfl rfl⟩,
        own .maxDelayMs rfl rfl⟩, own .jitter rfl rfl⟩
    | _ => contradiction
  | timeout budget delay =>
    cases c' with
    | timeout budget' delay' =>
      simp only [Settings.same, Bool.and_eq_true]
      exact ⟨own .budgetMs rfl rfl, own .delayMs rfl rfl⟩
    | _ => contradiction

/-- A field that holds its default, numbers compared by value. -/
def Defaulted (c : Settings) (field : Field) : Prop :=
  ∃ v default, c.get? field = some v ∧ field.default? = some default ∧ field.same default v = true

/-- Members of the document of settings, those left out being fields that hold their defaults. -/
structure Abridges (kept : List (String × Json)) (c : Settings) : Prop where
  part : kept.Sublist c.members
  defaulted : ∀ member ∈ c.members, member ∉ kept →
    ∃ field ∈ c.kind.fields, field.name = member.1 ∧ c.Defaulted field

theorem Abridges.named (abridges : Abridges kept c) : (kindKey, .string c.kind.name) ∈ kept := by
  by_contra left_out
  obtain ⟨field, -, named, -⟩ := abridges.defaulted _ (kind_mem_members_iff.mpr rfl) left_out
  exact field.name_ne_kindKey named

theorem Abridges.wellFormed (abridges : Abridges kept c) : WellFormed kept c.kind := by
  refine ⟨abridges.named, fun field applies j here => ?_, fun limited => ?_⟩
  · obtain ⟨v, -, written⟩ := mem_members_iff.mp (abridges.part.subset here)
    exact ⟨v, Field.reads_of_document? written⟩
  · have applies : Field.budgetMs ∈ c.kind.fields := by
      rw [limited]
      decide
    obtain ⟨v, held⟩ := exists_get?_iff.mpr applies
    obtain ⟨j, written⟩ : ∃ j, Field.document? .budgetMs v = some j := ⟨_, rfl⟩
    refine ⟨j, ?_⟩
    by_contra left_out
    obtain ⟨field, -, named, -, default, -, meant, -⟩ :=
      abridges.defaulted _ (mem_members_iff.mpr ⟨v, held, written⟩) left_out
    obtain rfl : field = .budgetMs := Field.name_injective named
    contradiction

theorem Abridges.same_value (abridges : Abridges kept c) (finite : c.finite = true)
    {v v' : field.Value} (held : c.get? field = some v) (gives : Gives kept field v') :
    field.same v' v = true := by
  rcases gives with ⟨j, here, read⟩ | ⟨nowhere, default⟩
  · obtain ⟨v'', held'', written⟩ := mem_members_iff.mp (abridges.part.subset here)
    rw [held] at held''
    cases held''
    obtain rfl := Field.eq_of_reads (Field.reads_of_document? written) read
    exact same_self_of_finite finite held
  · cases written : field.document? v with
    | none =>
      rw [Field.default?_of_unwritten written] at default
      cases default
      exact same_self_of_finite finite held
    | some j =>
      have listed : (field.name, j) ∈ c.members := mem_members_iff.mpr ⟨v, held, written⟩
      obtain ⟨field', -, named, w, default', held', meant, same⟩ :=
        abridges.defaulted _ listed (nowhere j)
      obtain rfl := Field.name_injective named
      rw [held] at held'
      cases held'
      rw [default] at meant
      cases meant
      exact same

theorem Abridges.decode (abridges : Abridges kept c) (finite : c.finite = true) :
    ∃ c', decode (.object kept) = .ok c' ∧ c'.same c = true := by
  have distinct := distinct_of_sublist abridges.part
  obtain ⟨c', kind, described⟩ := (exists_describes_iff distinct).mpr abridges.wellFormed
  refine ⟨c', (decode_object_eq_ok_iff_describes distinct).mpr described,
    same_of_values kind fun field applies => ?_⟩
  obtain ⟨v', held', gives⟩ := described.values field applies
  rw [kind] at applies
  obtain ⟨v, held⟩ := exists_get?_iff.mpr applies
  exact ⟨v', v, held', held, abridges.same_value finite held gives⟩

theorem not_mem_members_of_uncapped (uncapped : c.get? .maxDelayMs = some (none : Option UInt64)) :
    (Field.maxDelayMs.name, j) ∉ c.members := by
  intro listed
  obtain ⟨v, held, written⟩ := mem_members_iff.mp listed
  cases uncapped.symm.trans held
  contradiction

/-- An object with its kind last and a member that no settings have. -/
def shuffled : List (String × Json) :=
  [("delay_ms", .integer 250), ("note", .null), ("kind", .string "fixed")]

/-- Settings with a negative zero for their jitter. -/
def tremorless : Settings := .exponential 5 100 2 none (.zero true)

/-- The document of these settings without the jitter. -/
def unshaken : List (String × Json) :=
  [("kind", .string "exponential"), ("max_attempts", .integer 5), ("base_delay_ms", .integer 100),
    ("multiplier", .float 2)]

end Retry.Settings
