import Retry.Proofs.Settings.Fields
import Retry.Proofs.Settings.Selection

/-! Which objects describe settings, and which settings. The members of an object with distinct
keys are read one after another, but what is read depends only on what stands under each name: the
kind, and for each field of the kind its value or, where the name is missing, the default. -/
namespace Retry.Settings

/-- The value that members give to a field: what stands under its name, or else the default. -/
def Gives (members : List (String × Json)) (field : Field) (v : field.Value) : Prop :=
  (∃ j, (field.name, j) ∈ members ∧ field.Reads j v) ∨
    (∀ j, (field.name, j) ∉ members) ∧ field.default? = some v

/-- Members that name the kind of the settings and give the value of each of its fields. -/
structure Describes (members : List (String × Json)) (c : Settings) : Prop where
  named : (kindKey, .string c.kind.name) ∈ members
  values : ∀ field ∈ c.kind.fields, ∃ v, c.get? field = some v ∧ Gives members field v

/-- Members that name a kind, have under the name of each of its fields nothing or a value of that
field, and do not leave out a budget. -/
structure WellFormed (members : List (String × Json)) (kind : Kind) : Prop where
  named : (kindKey, .string kind.name) ∈ members
  reads : ∀ field ∈ kind.fields, ∀ j, (field.name, j) ∈ members → ∃ v, field.Reads j v
  budget : kind = .timeout → ∃ j, (Field.budgetMs.name, j) ∈ members

section Members

variable {members members' : List (String × Json)} {kind : Kind} {c : Settings} {field : Field}
  {key : String} {j : Json} {before after : Draft}

theorem decodeKind_eq_ok_iff : decodeKind j = .ok kind ↔ j = .string kind.name := by
  constructor
  · intro read
    cases j with
    | string s =>
      simp only [decodeKind] at read
      split at read
      · next known =>
        cases read
        rw [Kind.eq_name_of_ofName? known]
      · contradiction
    | _ => contradiction
  · rintro rfl
    cases kind <;> rfl

/-- What one member says about the kind. -/
def noteKind (kind? : Option Kind) (member : String × Json) : Except DecodeFault (Option Kind) :=
  if member.1 ≠ kindKey then .ok kind?
  else if kind?.isSome then .error .repeatedKind
  else (decodeKind member.2).map some

theorem kindOfMembers_eq : kindOfMembers members = members.foldlM noteKind none := rfl

theorem foldlM_noteKind_of_unnamed {kind? : Option Kind}
    (unnamed : kindKey ∉ members.map Prod.fst) :
    members.foldlM noteKind kind? = .ok kind? := by
  induction members with
  | nil => rfl
  | cons member rest ih =>
    rw [List.map_cons, List.mem_cons, not_or] at unnamed
    have passed : noteKind kind? member = .ok kind? := if_pos (Ne.symm unnamed.1)
    rw [List.foldlM_cons, passed]
    exact ih unnamed.2

theorem not_mem_of_unnamed (unnamed : key ∉ members.map Prod.fst) (j : Json) :
    (key, j) ∉ members := fun named => unnamed (List.mem_map_of_mem named)

theorem kindOfMembers_eq_ok_iff (distinct : (members.map Prod.fst).Nodup) :
    kindOfMembers members = .ok (some kind) ↔ (kindKey, .string kind.name) ∈ members := by
  rw [kindOfMembers_eq]
  induction members with
  | nil => simp [pure, Except.pure]
  | cons member rest ih =>
    obtain ⟨key, j⟩ := member
    rw [List.map_cons, List.nodup_cons] at distinct
    rw [List.foldlM_cons, bind_eq_ok_iff, List.mem_cons]
    by_cases named : key = kindKey
    · subst named
      have nowhere := not_mem_of_unnamed distinct.1 (.string kind.name)
      have note : noteKind none (kindKey, j) = (decodeKind j).map some := rfl
      simp only [note, foldlM_noteKind_of_unnamed distinct.1, map_eq_ok_iff, decodeKind_eq_ok_iff,
        nowhere, or_false, Prod.mk.injEq, true_and]
      constructor
      · rintro ⟨_, ⟨kind', rfl, rfl⟩, same⟩
        cases same
        rfl
      · rintro rfl
        exact ⟨some kind, ⟨kind, rfl, rfl⟩, rfl⟩
    · have passed : noteKind none (key, j) = .ok none := if_pos named
      have other : (kindKey, Json.string kind.name) ≠ (key, j) := fun same =>
        named (congrArg Prod.fst same).symm
      simp only [passed, Except.ok.injEq, exists_eq_left', ih distinct.2, other, false_or]

/-- What members hold under the name of a field of the kind. -/
def given? (members : List (String × Json)) (kind : Kind) (field : Field) : Option Json :=
  if field ∈ kind.fields then members.lookup field.name else none

theorem lookup_eq_some_iff_mem (distinct : (members.map Prod.fst).Nodup) :
    members.lookup key = some j ↔ (key, j) ∈ members := by
  induction members with
  | nil => simp
  | cons member rest ih =>
    obtain ⟨key', j'⟩ := member
    rw [List.map_cons, List.nodup_cons] at distinct
    by_cases same : key = key'
    · subst same
      have nowhere := not_mem_of_unnamed distinct.1 j
      simp [nowhere, eq_comm]
    · have other : (key == key') = false := by simpa using same
      simp only [List.lookup_cons, other, ih distinct.2, List.mem_cons, Prod.mk.injEq, same,
        false_and, false_or]

theorem lookup_eq_none_iff_forall (distinct : (members.map Prod.fst).Nodup) :
    members.lookup key = none ↔ ∀ j, (key, j) ∉ members := by
  simp only [Option.eq_none_iff_forall_ne_some, ne_eq, lookup_eq_some_iff_mem distinct]

theorem given?_eq_some_iff (distinct : (members.map Prod.fst).Nodup) :
    given? members kind field = some j ↔ field ∈ kind.fields ∧ (field.name, j) ∈ members := by
  rw [given?, Option.ite_none_right_eq_some, lookup_eq_some_iff_mem distinct]

theorem given?_of_applies (applies : field ∈ kind.fields) :
    given? members kind field = members.lookup field.name := if_pos applies

/-- A member that is no field of the kind gives none. -/
theorem given?_cons_of_unowned (unowned : ∀ field ∈ kind.fields, field.name ≠ key) (field : Field) :
    given? ((key, j) :: members) kind field = given? members kind field := by
  by_cases applies : field ∈ kind.fields
  · have other : (field.name == key) = false := by simpa using unowned field applies
    simp only [given?_of_applies applies, List.lookup_cons, other]
  · simp only [given?, if_neg applies]

theorem given?_cons_self (applies : field ∈ kind.fields) :
    given? ((field.name, j) :: members) kind field = some j := by
  simp [given?_of_applies applies]

theorem given?_cons_of_ne {field' : Field} (other : field' ≠ field) :
    given? ((field.name, j) :: members) kind field' = given? members kind field' := by
  have unnamed : (field'.name == field.name) = false := by
    simpa using fun same => other (Field.name_injective same)
  simp only [given?, List.lookup_cons, unnamed]

theorem given?_eq_none (unnamed : field.name ∉ members.map Prod.fst) :
    given? members kind field = none := by
  have nowhere : members.lookup field.name = none :=
    List.lookup_eq_none_iff.mpr fun member listed => by
      have other : field.name ≠ member.1 := fun same =>
        unnamed (same ▸ List.mem_map_of_mem listed)
      simpa using other
  rw [given?, nowhere, ite_self]

/-- A draft after members of a kind were taken: a field holds what they give for it, or else what
it held before. -/
def Taken (members : List (String × Json)) (kind : Kind) (before after : Draft) : Prop :=
  ∀ field : Field, match given? members kind field with
    | none => after.get? field = before.get? field
    | some j => ∃ v, field.Reads j v ∧ after.get? field = some v

theorem taken_nil : Taken [] kind before after ↔ after = before := by
  simp only [Taken, given?, List.lookup_nil, ite_self]
  exact ⟨Draft.ext_get?, fun same field => same ▸ rfl⟩

theorem taken_cons_of_unowned (unowned : ∀ field ∈ kind.fields, field.name ≠ key) :
    Taken ((key, j) :: members) kind before after ↔ Taken members kind before after := by
  simp only [Taken, given?_cons_of_unowned unowned]

theorem taken_cons_of_owned
    (applies : field ∈ kind.fields) (once : field.name ∉ members.map Prod.fst) :
    Taken ((field.name, j) :: members) kind before after ↔
      ∃ v, field.Reads j v ∧ Taken members kind (before.set field v) after := by
  have here : given? ((field.name, j) :: members) kind field = some j := given?_cons_self applies
  have later : given? members kind field = none := given?_eq_none once
  constructor
  · intro taken
    have own := taken field
    rw [here] at own
    obtain ⟨v, read, held⟩ := own
    refine ⟨v, read, fun field' => ?_⟩
    by_cases same : field' = field
    · subst same
      rw [later]
      exact held.trans (Draft.get?_set_self before field' v).symm
    · rw [Draft.get?_set_of_ne before v same, ← given?_cons_of_ne same]
      exact taken field'
  · rintro ⟨v, read, taken⟩ field'
    have own := taken field'
    by_cases same : field' = field
    · subst same
      rw [later] at own
      rw [here]
      exact ⟨v, read, own.trans (Draft.get?_set_self before field' v)⟩
    · rwa [Draft.get?_set_of_ne before v same, ← given?_cons_of_ne same] at own

theorem takeMember_of_unowned {d : Draft}
    (unowned : ∀ field ∈ kind.fields, field.name ≠ key) : takeMember kind d (key, j) = .ok d := by
  have none : kind.fields.find? (fun f => f.name == key) = none :=
    List.find?_eq_none.mpr fun field applies => by simpa using unowned field applies
  simp only [takeMember, none]

theorem takeMember_of_owned {d : Draft} (applies : field ∈ kind.fields)
    (fresh : d.get? field = none) : takeMember kind d (field.name, j) = d.put field j := by
  have owner : kind.fields.find? (fun f => f.name == field.name) = some field := by
    have found : (kind.fields.find? fun f => f.name == field.name).isSome :=
      List.find?_isSome.mpr ⟨field, applies, beq_self_eq_true _⟩
    obtain ⟨field', owner⟩ := Option.isSome_iff_exists.mp found
    have same : field'.name = field.name := by simpa using List.find?_some owner
    rw [owner, Field.name_injective same]
  simp only [takeMember, owner, Draft.has_eq, fresh, Option.isSome_none, Bool.false_eq_true,
    if_false]

/-- Whatever the order of the members, each of them is taken on its own. -/
theorem foldlM_takeMember_eq_ok_iff (distinct : (members.map Prod.fst).Nodup)
    (fresh : ∀ field : Field, field.name ∈ members.map Prod.fst → before.get? field = none) :
    members.foldlM (takeMember kind) before = .ok after ↔ Taken members kind before after := by
  induction members generalizing before with
  | nil =>
    simp only [List.foldlM_nil, pure, Except.pure, Except.ok.injEq, taken_nil]
    exact eq_comm
  | cons member rest ih =>
    obtain ⟨key, j⟩ := member
    rw [List.map_cons, List.nodup_cons] at distinct
    rw [List.foldlM_cons, bind_eq_ok_iff]
    by_cases owned : ∃ field ∈ kind.fields, field.name = key
    · obtain ⟨field, applies, rfl⟩ := owned
      -- No other member has this name, so the rest finds its own fields as empty as before.
      have still_fresh (v : field.Value) (field' : Field)
          (named : field'.name ∈ rest.map Prod.fst) : (before.set field v).get? field' = none := by
        have other : field' ≠ field := fun same => distinct.1 (same ▸ named)
        rw [Draft.get?_set_of_ne before v other]
        exact fresh field' (List.mem_cons_of_mem _ named)
      rw [takeMember_of_owned applies (fresh field (by simp)),
        taken_cons_of_owned applies distinct.1]
      simp only [Draft.put_eq_ok_iff]
      constructor
      · rintro ⟨_, ⟨v, read, rfl⟩, taken⟩
        exact ⟨v, read, (ih distinct.2 (still_fresh v)).mp taken⟩
      · rintro ⟨v, read, taken⟩
        exact ⟨before.set field v, ⟨v, read, rfl⟩, (ih distinct.2 (still_fresh v)).mpr taken⟩
    · have unowned : ∀ field ∈ kind.fields, field.name ≠ key := by simpa using owned
      simp only [takeMember_of_unowned unowned, Except.ok.injEq, exists_eq_left',
        taken_cons_of_unowned unowned]
      exact ih distinct.2 fun field named => fresh field (List.mem_cons_of_mem _ named)

theorem decode_object_eq_ok_iff : decode (.object members) = .ok c ↔
    ∃ kind, kindOfMembers members = .ok (some kind) ∧
      ∃ d, members.foldlM (takeMember kind) {} = .ok d ∧ d.settings? kind = some c := by
  rw [decode, decodeMembers, bind_eq_ok_iff]
  constructor
  · rintro ⟨_ | kind, named, read⟩
    · contradiction
    · obtain ⟨d, taken, made⟩ := bind_eq_ok_iff.mp read
      refine ⟨kind, named, d, taken, ?_⟩
      split at made
      · next whole =>
        cases made
        exact whole
      · contradiction
  · rintro ⟨kind, named, d, taken, made⟩
    refine ⟨some kind, named, bind_eq_ok_iff.mpr ⟨d, taken, ?_⟩⟩
    simp only [made]

theorem gives_of_some {v : field.Value}
    (distinct : (members.map Prod.fst).Nodup) (here : (field.name, j) ∈ members) :
    Gives members field v ↔ field.Reads j v := by
  constructor
  · rintro (⟨j', there, read⟩ | ⟨nowhere, -⟩)
    · have same : some j = some j' :=
        ((lookup_eq_some_iff_mem distinct).mpr here).symm.trans
          ((lookup_eq_some_iff_mem distinct).mpr there)
      cases same
      exact read
    · exact absurd here (nowhere j)
  · intro read
    exact .inl ⟨j, here, read⟩

theorem gives_of_none {v : field.Value} (nowhere : ∀ j, (field.name, j) ∉ members) :
    Gives members field v ↔ field.default? = some v := by
  constructor
  · rintro (⟨j, here, -⟩ | ⟨-, default⟩)
    · exact absurd here (nowhere j)
    · exact default
  · intro default
    exact .inr ⟨nowhere, default⟩

theorem describes_of_taken {d : Draft} (distinct : (members.map Prod.fst).Nodup)
    (named : (kindKey, .string c.kind.name) ∈ members) (taken : Taken members c.kind {} d)
    (made : d.settings? c.kind = some c) : Describes members c := by
  refine ⟨named, fun field applies => ?_⟩
  obtain ⟨v, held, drafted⟩ := (Draft.settings?_eq_some_iff.mp made).2 field applies
  have own := taken field
  rw [given?_of_applies applies] at own
  refine ⟨v, held, ?_⟩
  cases stands : members.lookup field.name with
  | none =>
    rw [stands] at own
    rw [own, Draft.get?_empty, Option.none_or] at drafted
    exact .inr ⟨(lookup_eq_none_iff_forall distinct).mp stands, drafted⟩
  | some j =>
    rw [stands] at own
    obtain ⟨v', read, held'⟩ := own
    rw [held', Option.some_or] at drafted
    cases drafted
    exact .inl ⟨j, (lookup_eq_some_iff_mem distinct).mp stands, read⟩

/-- The values that are not left to the defaults. -/
def draftOf (members : List (String × Json)) (c : Settings) : Draft :=
  .of fun field => if (given? members c.kind field).isSome then c.get? field else none

theorem Describes.taken_draftOf (described : Describes members c)
    (distinct : (members.map Prod.fst).Nodup) : Taken members c.kind {} (draftOf members c) := by
  intro field
  rw [draftOf, Draft.get?_of]
  cases stands : given? members c.kind field with
  | none => rw [Draft.get?_empty, Option.isSome_none, if_neg Bool.false_ne_true]
  | some j =>
    obtain ⟨applies, here⟩ := (given?_eq_some_iff distinct).mp stands
    obtain ⟨v, held, gives⟩ := described.values field applies
    exact ⟨v, (gives_of_some distinct here).mp gives, (if_pos rfl).trans held⟩

theorem Describes.settings?_draftOf (described : Describes members c)
    (distinct : (members.map Prod.fst).Nodup) :
    (draftOf members c).settings? c.kind = some c := by
  refine Draft.settings?_eq_some_iff.mpr ⟨rfl, fun field applies => ?_⟩
  obtain ⟨v, held, gives⟩ := described.values field applies
  refine ⟨v, held, ?_⟩
  rw [draftOf, Draft.get?_of, given?_of_applies applies]
  cases stands : members.lookup field.name with
  | none =>
    have nowhere := (lookup_eq_none_iff_forall distinct).mp stands
    rw [Option.isSome_none, if_neg Bool.false_ne_true, Option.none_or]
    exact (gives_of_none nowhere).mp gives
  | some j => rw [Option.isSome_some, if_pos rfl, held, Option.some_or]

/-- What an object with distinct keys is read as. -/
theorem decode_object_eq_ok_iff_describes (distinct : (members.map Prod.fst).Nodup) :
    decode (.object members) = .ok c ↔ Describes members c := by
  have fold (kind : Kind) (d : Draft) :
      members.foldlM (takeMember kind) {} = .ok d ↔ Taken members kind {} d :=
    foldlM_takeMember_eq_ok_iff distinct fun field _ => Draft.get?_empty field
  simp only [decode_object_eq_ok_iff, kindOfMembers_eq_ok_iff distinct, fold]
  constructor
  · rintro ⟨kind, named, d, taken, made⟩
    obtain ⟨rfl, -⟩ := Draft.settings?_eq_some_iff.mp made
    exact describes_of_taken distinct named taken made
  · intro described
    exact ⟨c.kind, described.named, draftOf members c, described.taken_draftOf distinct,
      described.settings?_draftOf distinct⟩

theorem Describes.wellFormed (described : Describes members c)
    (distinct : (members.map Prod.fst).Nodup) : WellFormed members c.kind := by
  refine ⟨described.named, fun field applies j here => ?_, fun limited => ?_⟩
  · obtain ⟨v, -, gives⟩ := described.values field applies
    exact ⟨v, (gives_of_some distinct here).mp gives⟩
  · have applies : Field.budgetMs ∈ c.kind.fields := by
      rw [limited]
      decide
    obtain ⟨v, -, ⟨j, here, -⟩ | ⟨-, default⟩⟩ := described.values .budgetMs applies
    · exact ⟨j, here⟩
    · contradiction

theorem WellFormed.exists_gives (wellFormed : WellFormed members kind)
    (applies : field ∈ kind.fields) : ∃ v, Gives members field v := by
  by_cases given : ∃ j, (field.name, j) ∈ members
  · obtain ⟨j, here⟩ := given
    obtain ⟨v, read⟩ := wellFormed.reads field applies j here
    exact ⟨v, .inl ⟨j, here, read⟩⟩
  · have nowhere : ∀ j, (field.name, j) ∉ members := not_exists.mp given
    have optional : field ≠ .budgetMs := by
      rintro rfl
      have limited : kind = .timeout := by
        cases kind with
        | timeout => rfl
        | _ => exact absurd applies (by decide)
      exact given (wellFormed.budget limited)
    obtain ⟨v, default⟩ := Field.exists_default optional
    exact ⟨v, .inr ⟨nowhere, default⟩⟩

theorem exists_describes_iff (distinct : (members.map Prod.fst).Nodup) :
    (∃ c, c.kind = kind ∧ Describes members c) ↔ WellFormed members kind := by
  constructor
  · rintro ⟨c, rfl, described⟩
    exact described.wellFormed distinct
  · intro wellFormed
    obtain ⟨c, rfl, values⟩ := exists_of_values fun _ applies => wellFormed.exists_gives applies
    exact ⟨c, rfl, wellFormed.named, values⟩

/-- The keys that an object of a kind may use. -/
def Kind.keys (kind : Kind) : List String := kindKey :: kind.fields.map Field.name

theorem Kind.keys_nodup (kind : Kind) : kind.keys.Nodup := by
  cases kind <;> decide

theorem Describes.of_agree (described : Describes members c)
    (agree : ∀ key ∈ c.kind.keys, ∀ j, (key, j) ∈ members' ↔ (key, j) ∈ members) :
    Describes members' c := by
  refine ⟨(agree kindKey (List.mem_cons_self ..) _).mpr described.named, fun field applies => ?_⟩
  obtain ⟨v, held, gives⟩ := described.values field applies
  have known : field.name ∈ c.kind.keys := List.mem_cons_of_mem _ (List.mem_map_of_mem applies)
  refine ⟨v, held, ?_⟩
  rw [Gives]
  simp only [agree field.name known]
  exact gives

/-- Nothing but the members with keys of the kind matters. -/
theorem describes_congr
    (agree : ∀ key ∈ c.kind.keys, ∀ j, (key, j) ∈ members' ↔ (key, j) ∈ members) :
    Describes members' c ↔ Describes members c :=
  ⟨fun described => described.of_agree fun key known j => (agree key known j).symm,
    fun described => described.of_agree agree⟩

theorem decode_of_perm (distinct : (members.map Prod.fst).Nodup)
    (reordered : members'.Perm members) :
    decode (.object members') = .ok c ↔ decode (.object members) = .ok c := by
  have distinct' : (members'.map Prod.fst).Nodup :=
    (reordered.map Prod.fst).nodup_iff.mpr distinct
  rw [decode_object_eq_ok_iff_describes distinct, decode_object_eq_ok_iff_describes distinct']
  exact describes_congr fun key _ j => reordered.mem_iff

theorem decode_of_filter (distinct : (members.map Prod.fst).Nodup) :
    decode (.object (members.filter fun member => member.1 ∈ c.kind.keys)) = .ok c ↔
      decode (.object members) = .ok c := by
  have distinct' := distinct.sublist
    ((List.filter_sublist (p := fun member => decide (member.1 ∈ c.kind.keys))).map Prod.fst)
  rw [decode_object_eq_ok_iff_describes distinct, decode_object_eq_ok_iff_describes distinct']
  refine describes_congr fun key known j => ?_
  rw [List.mem_filter]
  exact and_iff_left (decide_eq_true known)

theorem exists_decode_iff (distinct : (members.map Prod.fst).Nodup) :
    (∃ c, decode (.object members) = .ok c) ↔ ∃ kind, WellFormed members kind := by
  simp only [decode_object_eq_ok_iff_describes distinct]
  constructor
  · rintro ⟨c, described⟩
    exact ⟨c.kind, described.wellFormed distinct⟩
  · rintro ⟨kind, wellFormed⟩
    obtain ⟨c, -, described⟩ := (exists_describes_iff distinct).mpr wellFormed
    exact ⟨c, described⟩

end Members
end Retry.Settings
