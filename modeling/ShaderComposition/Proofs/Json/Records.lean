import Mathlib.Data.List.Nodup
import Mathlib.Data.List.Pairwise
import ShaderComposition.Json.Reader
import ShaderComposition.Proofs.Scope.Declaring

/-!
# Records over their defaults

Reading an object goes through its members in order and changes one field at a time. What it makes of
one part of a record is followed by itself (`JsonRecord.Holds`): one step changes the part or leaves it
alone (`readMembers_cons_cases`), and so after a run the part is what the object's member for it says, or
what it was before (`Holds.replaced_of_readMembers`). The order of the members and the unknown ones
among them do not come into it. So a record that is made of parts which do not get in each other's way is
settled by what an object says of each part (`MadeOf.exists_readText`).
-/

namespace ShaderComposition

namespace Json

theorem skipMembers_eq_none_iff {members : List (Option String × Json)} :
    skipMembers members = none ↔ ∀ member ∈ members, member.2.skip = none := by
  induction members with
  | nil => simp [skipMembers]
  | cons member members ih =>
    rw [skipMembers, Option.or_eq_none_iff, ih, List.forall_mem_cons]

/-- An object that can be passed over is one of values that can be passed over. -/
theorem skip_record_eq_none_iff {members : List (String × Json)} :
    (record members).skip = none ↔ ∀ member ∈ members, member.2.skip = none := by
  rw [record, skip, Option.map_none, Option.or_none, skipMembers_eq_none_iff, List.forall_mem_map]

/-- Of the members of an object, the one of a key says what a part of a record is, if there is one. -/
structure Replaced {β : Type} (members : List (String × Json)) (key : String)
    (means : Json → β → Prop) (base result : β) : Prop where
  given : ∀ value, (key, value) ∈ members → means value result
  absent : key ∉ members.map Prod.fst → result = base

theorem Replaced.cons {β : Type} {members : List (String × Json)} {key other : String}
    {means : Json → β → Prop} {base result : β} (h : Replaced members key means base result)
    (apart : other ≠ key) (value : Json) :
    Replaced ((other, value) :: members) key means base result where
  given := by
    intro value' member
    rcases List.mem_cons.1 member with here | later
    · exact absurd (Prod.mk.inj here).1.symm apart
    · exact h.given value' later
  absent := by
    intro absent
    apply h.absent
    intro member
    exact absent (List.mem_cons_of_mem _ member)

/-- What a part is replaced by is settled where values mean what they are read as. -/
theorem Replaced.unique {β : Type} {members : List (String × Json)} {key : String}
    {means : Json → β → Prop} {read : Json → Except ReadError β} {base x y : β}
    (first : Replaced members key means base x)
    (reads : ∀ {value x}, read value = .ok x ↔ means value x)
    (second : Replaced members key means base y) : x = y := by
  by_cases given : key ∈ members.map Prod.fst
  · obtain ⟨⟨key', value⟩, member, rfl⟩ := List.mem_map.1 given
    have one : read value = .ok x := reads.2 (first.given value member)
    have other : read value = .ok y := reads.2 (second.given value member)
    exact Except.ok.inj (one.symm.trans other)
  · rw [first.absent given, second.absent given]

end Json

/-- A kind of values: how one is read, and what it means. -/
structure JsonKind (β : Type) where
  read : Json → Except ReadError β
  means : Json → β → Prop
  read_eq_ok_iff : ∀ {value x}, read value = .ok x ↔ means value x

/-- A part of a record that can be left out, and the key of the field that it is read from. -/
structure JsonPart (α : Type) where
  {Content : Type}
  key : String
  kind : JsonKind Content
  get : α → Content
  put : Content → α → α
  get_put : ∀ x s, get (put x s) = x

namespace JsonPart

variable {α : Type}

/-- The field of a part: what is read is put into its place. -/
def field (part : JsonPart α) : JsonField α where
  name := part.key
  read value s := do return part.put (← part.kind.read value) s

/-- Either of two parts is left alone where the other is replaced. -/
structure Apart (a b : JsonPart α) : Prop where
  left : ∀ x s, a.get (b.put x s) = a.get s
  right : ∀ x s, b.get (a.put x s) = b.get s

instance : Std.Symm (@Apart α) where
  symm _ _ h := ⟨h.right, h.left⟩

theorem field_read_eq_ok_iff {part : JsonPart α} {value : Json} {s t : α} :
    part.field.read value s = .ok t ↔ ∃ x, part.kind.means value x ∧ part.put x s = t := by
  simp only [field, bind_eq_ok_iff, part.kind.read_eq_ok_iff, pure, Except.pure, Except.ok.injEq]

end JsonPart

namespace JsonRecord

open Json (Replaced)

variable {α β : Type} {r : JsonRecord α} {seen seen' : List String} {s t : α} {key : String}
  {value : Json} {members : List (String × Json)}

/-- The members of an object without defects, as they are read. -/
def keyed (members : List (String × Json)) : List (Option String × Json) :=
  members.map fun (key, value) => (some key, value)

/-- Each field may be left out, and whether it can be read depends on the value alone. -/
structure Optional (r : JsonRecord α) : Prop where
  not_required : ∀ field ∈ r.fields, field.required = false
  uniform : ∀ field ∈ r.fields, ∀ value s t s', field.read value s = .ok t →
    ∃ t', field.read value s' = .ok t'

/-- The known keys of an object are distinct, and their values can be read. -/
structure Readable (r : JsonRecord α) (members : List (String × Json)) : Prop where
  distinct : ∀ field ∈ r.fields, (members.map Prod.fst).count field.name ≤ 1
  readable : ∀ member ∈ members, ∀ field ∈ r.fields, field.name = member.1 →
    ∃ s t, field.read member.2 s = .ok t

/-- Whether values can be read is found out by reading them. -/
theorem Readable.of_isOk (distinct : ∀ field ∈ r.fields, (members.map Prod.fst).count field.name ≤ 1)
    (readable : ∀ member ∈ members, ∀ field ∈ r.fields, field.name = member.1 →
      (field.read member.2 r.default).isOk = true) : r.Readable members where
  distinct := distinct
  readable := by
    intro member among field known same
    have ok := readable member among field known same
    cases read : field.read member.2 r.default with
    | error e =>
      rw [read] at ok
      cases ok
    | ok t => exact ⟨_, t, read⟩

/-- A part of a record is what the field of a key says, and no other field changes it. -/
structure Holds (r : JsonRecord α) (key : String) (get : α → β) (means : Json → β → Prop) : Prop where
  known : ∃ field ∈ r.fields, field.name = key
  own : ∀ field ∈ r.fields, field.name = key → ∀ value s t, field.read value s = .ok t →
    means value (get t)
  other : ∀ field ∈ r.fields, field.name ≠ key → ∀ value s t, field.read value s = .ok t →
    get t = get s

/-- A record has nothing but certain parts, which have keys of their own and are apart. -/
structure MadeOf (r : JsonRecord α) (parts : List (JsonPart α)) : Prop where
  fields : r.fields = parts.map JsonPart.field
  keys : (parts.map (·.key)).Nodup
  apart : parts.Pairwise JsonPart.Apart
  ext : ∀ s t, (∀ part ∈ parts, part.get s = part.get t) → s = t

namespace MadeOf

variable {parts : List (JsonPart α)} {part : JsonPart α}

theorem optional (made : r.MadeOf parts) : r.Optional where
  not_required := by
    rw [made.fields, List.forall_mem_map]
    exact fun _ _ => rfl
  uniform := by
    rw [made.fields, List.forall_mem_map]
    intro part _ value s t s' read
    obtain ⟨x, means, -⟩ := JsonPart.field_read_eq_ok_iff.1 read
    exact ⟨part.put x s', JsonPart.field_read_eq_ok_iff.2 ⟨x, means, rfl⟩⟩

/-- Each part is what its own field says. -/
theorem holds (made : r.MadeOf parts) (member : part ∈ parts) :
    r.Holds part.key part.get part.kind.means where
  known := by
    rw [made.fields]
    exact ⟨part.field, List.mem_map_of_mem member, rfl⟩
  own := by
    rw [made.fields, List.forall_mem_map]
    intro other among same value s t read
    obtain ⟨x, means, rfl⟩ := JsonPart.field_read_eq_ok_iff.1 read
    obtain rfl : other = part := List.inj_on_of_nodup_map made.keys among member same
    rwa [other.get_put]
  other := by
    rw [made.fields, List.forall_mem_map]
    intro other among different value s t read
    obtain ⟨x, -, rfl⟩ := JsonPart.field_read_eq_ok_iff.1 read
    exact (made.apart.forall among member fun same => different (same ▸ rfl)).right x s

end MadeOf

/-! ## One member -/

/-- A member is read into a field that was not read before, or it is unknown and passed over. -/
theorem readMembers_cons_cases
    (h : r.readMembers seen s (keyed ((key, value) :: members)) = .ok (seen', t)) :
    (∃ field next, field ∈ r.fields ∧ field.name = key ∧ key ∉ seen ∧
        field.read value s = .ok next ∧
        r.readMembers (key :: seen) next (keyed members) = .ok (seen', t)) ∨
      (∀ field ∈ r.fields, field.name ≠ key) ∧
        r.readMembers seen s (keyed members) = .ok (seen', t) := by
  have step : keyed ((key, value) :: members) = (some key, value) :: keyed members := rfl
  rw [step, readMembers] at h
  cases found : r.fields.find? (·.name == key) with
  | none =>
    rw [found] at h
    obtain ⟨-, -, rest⟩ := bind_eq_ok_iff.1 h
    refine .inr ⟨?_, rest⟩
    intro field member same
    have odd := List.find?_eq_none.1 found field member
    exact odd (beq_iff_eq.2 same)
  | some field =>
    rw [found] at h
    have same : field.name = key := by simpa using List.find?_some found
    by_cases again : key ∈ seen
    · simp [again] at h
    · simp only [List.contains_eq_mem, again, decide_false, Bool.false_eq_true, if_false] at h
      obtain ⟨next, read, rest⟩ := bind_eq_ok_iff.1 h
      exact .inl ⟨field, next, List.mem_of_find?_eq_some found, same, again, read, rest⟩

/-- A member is read if its key is new and its value can be read, or if it is unknown and sound. -/
theorem exists_readMembers_cons
    (known : ∀ field ∈ r.fields, field.name = key →
      key ∉ seen ∧ ∃ next, field.read value s = .ok next)
    (sound : value.skip = none)
    (rest : ∀ seen' s', (∀ name ∈ seen', name ∈ key :: seen) →
      ∃ result, r.readMembers seen' s' (keyed members) = .ok result) :
    ∃ result, r.readMembers seen s (keyed ((key, value) :: members)) = .ok result := by
  have step : keyed ((key, value) :: members) = (some key, value) :: keyed members := rfl
  rw [step, readMembers]
  cases found : r.fields.find? (·.name == key) with
  | none =>
    obtain ⟨result, read⟩ := rest seen s fun name member => List.mem_cons_of_mem _ member
    exact ⟨result, bind_eq_ok_iff.2 ⟨(), by rw [sound]; rfl, read⟩⟩
  | some field =>
    have same : field.name = key := by simpa using List.find?_some found
    obtain ⟨new, next, read⟩ := known field (List.mem_of_find?_eq_some found) same
    obtain ⟨result, later⟩ := rest (key :: seen) next fun name member => member
    refine ⟨result, ?_⟩
    simp only [List.contains_eq_mem, new, decide_false, Bool.false_eq_true, if_false]
    exact bind_eq_ok_iff.2 ⟨next, read, later⟩

/-! ## All members -/

/-- A part of the record is replaced by what the member for it says; a known key is not given twice. -/
theorem Holds.replaced_of_readMembers {get : α → β} {means : Json → β → Prop}
    (holds : r.Holds key get means) (h : r.readMembers seen s (keyed members) = .ok (seen', t)) :
    Replaced members key means (get s) (get t) ∧ (key ∈ seen → key ∉ members.map Prod.fst) := by
  induction members generalizing seen s with
  | nil =>
    cases h
    exact ⟨⟨fun value member => absurd member List.not_mem_nil, fun _ => rfl⟩,
      fun _ => List.not_mem_nil⟩
  | cons member members ih =>
    obtain ⟨key', value'⟩ := member
    rcases readMembers_cons_cases h with ⟨field, next, among, name, new, read, rest⟩ | ⟨unknown, rest⟩
    · obtain ⟨replaced, once⟩ := ih rest
      by_cases same : key' = key
      · subst same
        have last : key' ∉ members.map Prod.fst := once List.mem_cons_self
        have meant : means value' (get t) := by
          rw [replaced.absent last]
          exact holds.own field among name value' s next read
        refine ⟨⟨?_, fun absent => absurd List.mem_cons_self absent⟩, fun old => absurd old new⟩
        intro value given
        rcases List.mem_cons.1 given with here | later
        · rw [(Prod.mk.inj here).2]
          exact meant
        · exact absurd (List.mem_map_of_mem later) last
      · have kept : get next = get s :=
          holds.other field among (fun h => same (name.symm.trans h)) value' s next read
        rw [kept] at replaced
        refine ⟨replaced.cons same value', fun old => ?_⟩
        apply List.not_mem_cons_of_ne_of_not_mem (Ne.symm same)
        exact once (List.mem_cons_of_mem _ old)
    · obtain ⟨replaced, once⟩ := ih rest
      obtain ⟨field, among, name⟩ := holds.known
      have same : key' ≠ key := fun h => unknown field among (name.trans h.symm)
      refine ⟨replaced.cons same value', fun old => ?_⟩
      apply List.not_mem_cons_of_ne_of_not_mem (Ne.symm same)
      exact once old

/-- An object is read if its known keys are distinct and have readable values. -/
theorem exists_readMembers (optional : r.Optional) (readable : r.Readable members)
    (sound : ∀ member ∈ members, member.2.skip = none)
    (fresh : ∀ field ∈ r.fields, field.name ∈ seen → field.name ∉ members.map Prod.fst) :
    ∃ result, r.readMembers seen s (keyed members) = .ok result := by
  induction members generalizing seen s with
  | nil => exact ⟨_, rfl⟩
  | cons member members ih =>
    obtain ⟨key, value⟩ := member
    have later : r.Readable members := by
      refine ⟨fun field among => ?_, fun member' h => readable.readable member' (List.mem_cons_of_mem _ h)⟩
      have distinct := readable.distinct field among
      rw [List.map_cons, List.count_cons] at distinct
      omega
    apply exists_readMembers_cons
    · intro field among name
      refine ⟨fun old => fresh field among (name ▸ old) (name ▸ List.mem_cons_self), ?_⟩
      obtain ⟨s', t', read⟩ := readable.readable _ List.mem_cons_self field among name
      exact optional.uniform field among value s' t' s read
    · exact sound _ List.mem_cons_self
    · intro seen' s' old
      apply ih later fun member h => sound member (List.mem_cons_of_mem _ h)
      intro field among seen again
      rcases List.mem_cons.1 (old _ seen) with here | before
      · -- the key at the front would stand twice among the members
        have distinct := readable.distinct field among
        have twice : 0 < (members.map Prod.fst).count field.name := List.count_pos_iff.2 again
        rw [List.map_cons, List.count_cons, here] at distinct
        rw [here] at twice
        simp only [beq_self_eq_true, if_true] at distinct
        omega
      · exact fresh field among before (List.mem_cons_of_mem _ again)

/-! ## Texts -/

/--
A text is read as its object says, on top of the defaults: it is read as the one record in which each
part is what the value of its key means, or what it is by default.
-/
theorem MadeOf.exists_readText {parts : List (JsonPart α)} {text : String} (made : r.MadeOf parts)
    (parsed : Json.parse text = ⟨.record members, false⟩)
    (sound : (Json.record members).skip = none) (readable : r.Readable members) :
    ∃ t, Json.readText r.read text = .ok t ∧ ∀ s,
      (∀ part ∈ parts,
        Replaced members part.key part.kind.means (part.get r.default) (part.get s)) ↔ s = t := by
  obtain ⟨⟨seen, t⟩, members_read⟩ : ∃ result, r.readMembers [] r.default (keyed members) = .ok result :=
    exists_readMembers made.optional readable (Json.skip_record_eq_none_iff.1 sound)
      fun _ _ old => absurd old List.not_mem_nil
  have none_missing : r.fields.find? (fun field => field.required && !seen.contains field.name) =
      none := by
    apply List.find?_eq_none.2
    intro field among
    simp [made.optional.not_required field among]
  have record_read : r.read (.record members) = .ok t := by
    apply bind_eq_ok_iff.2
    refine ⟨(seen, t), members_read, bind_eq_ok_iff.2 ⟨(), rfl, ?_⟩⟩
    rw [none_missing]
    rfl
  have replaced (part : JsonPart α) (member : part ∈ parts) :=
    ((made.holds member).replaced_of_readMembers members_read).1
  refine ⟨t, ?_, fun s => ⟨fun described => made.ext s t fun part member => ?_, ?_⟩⟩
  · rw [Json.readText, parsed]
    exact bind_eq_ok_iff.2 ⟨t, record_read, rfl⟩
  · exact (described part member).unique part.kind.read_eq_ok_iff (replaced part member)
  · rintro rfl
    exact replaced

end JsonRecord

end ShaderComposition
