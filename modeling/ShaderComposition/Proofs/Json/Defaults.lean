import ShaderComposition.Material.Json
import ShaderComposition.Proofs.Json.Records
import ShaderComposition.Proofs.Snippet.UnknownSymbols
import ShaderComposition.Settings.Json

/-!
# Partial descriptions

Settings and materials are read from objects that give some of their fields. What an object describes is
said field by field (`Settings.Described`, `Material.Described`): a field is what the value under its key
means, and what it is by default if there is no such key. The values mean what they spell
(`JsonKind.read_eq_ok_iff`). Both records are made of their fields, with nothing else in them
(`Settings.madeOf`, `Material.madeOf`), and that is all that their descriptions differ in.
-/

namespace ShaderComposition

open Vocabulary (spelling)

namespace Json

variable {value : Json}

/-! ## What values mean -/

def MeansFlag (value : Json) (flag : Bool) : Prop :=
  value = .bool flag

def MeansCount (value : Json) (count : UInt16) : Prop :=
  value = .nat count.toNat

def MeansText (value : Json) (text : String) : Prop :=
  value = .string text

/-- A text, or `null` for none. -/
def MeansOptionalText (value : Json) : Option String → Prop
  | none => value = .null
  | some text => value = .string text

/-- A number that is rounded to single precision. -/
inductive MeansSingle : Json → Float32 → Prop
  | integer (number : Int) : MeansSingle (.number (.integer number)) (singleOfInt number)
  | double (number : Float) : MeansSingle (.number (.double number)) number.toFloat32

theorem readBool_eq_ok_iff {flag : Bool} : value.readBool = .ok flag ↔ value.MeansFlag flag := by
  unfold MeansFlag
  cases value with
  | number number => cases number <;> simp [readBool, mismatch]
  | _ => simp [readBool, mismatch]

theorem readString_eq_ok_iff {text : String} : value.readString = .ok text ↔ value.MeansText text := by
  unfold MeansText
  cases value with
  | number number => cases number <;> simp [readString, mismatch]
  | _ => simp [readString, mismatch]

theorem readUInt16_eq_ok_iff {count : UInt16} :
    value.readUInt16 = .ok count ↔ value.MeansCount count := by
  unfold MeansCount nat
  cases value with
  | number number =>
    cases number with
    | double => simp [readUInt16, mismatch]
    | integer number =>
      have bound := count.toNat_lt
      have fits : (0 ≤ number ∧ number ≤ 65535) ∧ UInt16.ofNat number.toNat = count ↔
          number = count.toNat := by
        constructor
        · rintro ⟨⟨low, high⟩, rfl⟩
          rw [UInt16.toNat_ofNat']
          omega
        · rintro rfl
          refine ⟨by omega, ?_⟩
          simp
      by_cases within : 0 ≤ number ∧ number ≤ 65535
      · simpa [readUInt16, within] using fits
      · simpa [readUInt16, within] using fits
  | _ => simp [readUInt16, mismatch]

theorem readOptionalString_eq_ok_iff {text : Option String} :
    value.readOptionalString = .ok text ↔ value.MeansOptionalText text := by
  by_cases null : value = .null
  · rw [null]
    cases text <;> simp [readOptionalString, MeansOptionalText]
  · have plain : value.readOptionalString = some <$> value.readString := by
      cases value with
      | null => exact absurd rfl null
      | _ => rfl
    rw [plain, map_eq_ok_iff]
    cases text with
    | none => simp [MeansOptionalText, null]
    | some text => simp [readString_eq_ok_iff, MeansText, MeansOptionalText]

theorem readSingle_eq_ok_iff {single : Float32} :
    value.readSingle = .ok single ↔ value.MeansSingle single := by
  constructor
  · intro h
    cases value with
    | number number =>
      cases number with
      | integer number =>
        cases h
        exact .integer number
      | double number =>
        cases h
        exact .double number
    | _ => simp [readSingle, mismatch] at h
  · rintro (⟨number⟩ | ⟨number⟩)
    · rfl
    · rfl

end Json

namespace Bindings

variable {value : Json} {b result : Bindings} {members : List (Option String × Json)}

/-- The members of an object that binds roles to names, in the order of the entries. -/
def entryMembers (entries : List (Role × String)) : List (String × Json) :=
  entries.map fun (role, name) => (spelling role, .string name)

/-- The name in the last of the entries for a role. -/
def lastName (entries : List (Role × String)) (role : Role) : Option String :=
  (entries.findRev? (·.1 = role)).map (·.2)

/-- An object of roles and names, of which the last one for each role counts. -/
def Means (value : Json) (b : Bindings) : Prop :=
  ∃ entries, value = .record (entryMembers entries) ∧ ∀ role, b.name? role = lastName entries role

theorem lastName_cons (role : Role) (name : String) (entries : List (Role × String)) (r : Role) :
    lastName ((role, name) :: entries) r =
      (lastName entries r).or (if r = role then some name else none) := by
  unfold lastName
  rw [List.findRev?_eq_find?_reverse, List.findRev?_eq_find?_reverse, List.reverse_cons,
    List.find?_append]
  by_cases same : r = role
  · cases found : entries.reverse.find? (·.1 = r) <;> simp [same]
  · have apart : role ≠ r := fun h => same h.symm
    cases found : entries.reverse.find? (·.1 = r) <;> simp [same, apart]

/-- Reading goes through the entries, each of which binds its role anew. -/
theorem readMembers_eq_ok_iff :
    b.readMembers members = .ok result ↔ ∃ entries,
      members = JsonRecord.keyed (entryMembers entries) ∧
        ∀ role, result.name? role = (lastName entries role).or (b.name? role) := by
  induction members generalizing b with
  | nil =>
    constructor
    · intro h
      cases h
      exact ⟨[], rfl, fun role => rfl⟩
    · rintro ⟨entries, none, names⟩
      cases entries with
      | nil => exact congrArg Except.ok (Bindings.ext (funext fun role => (names role).symm))
      | cons entry entries => cases none
  | cons member members ih =>
    obtain ⟨key, value⟩ := member
    constructor
    · intro h
      cases key with
      | none => cases h
      | some key =>
        rw [readMembers] at h
        cases parsed : Vocabulary.parse Role key with
        | error e =>
          rw [parsed] at h
          cases h
        | ok role =>
          rw [parsed] at h
          obtain ⟨name, read, rest⟩ := bind_eq_ok_iff.1 h
          obtain ⟨entries, rfl, names⟩ := ih.1 rest
          have text : value = .string name := Json.readString_eq_ok_iff.1 read
          refine ⟨(role, name) :: entries, ?_, fun r => ?_⟩
          · rw [text, ← Vocabulary.parse_eq_ok_iff.1 parsed]
            rfl
          · rw [names, lastName_cons, name?_bind, Option.or_assoc]
            split <;> rfl
    · rintro ⟨entries, same, names⟩
      cases entries with
      | nil => cases same
      | cons entry entries =>
        obtain ⟨role, name⟩ := entry
        obtain ⟨here, later⟩ := List.cons.inj same
        cases here
        have parsed : Vocabulary.parse Role (spelling role) = .ok role :=
          Vocabulary.parse_eq_ok_iff.2 rfl
        have rest : (b.bind role name).readMembers members = .ok result := by
          refine ih.2 ⟨entries, later, fun r => ?_⟩
          rw [names, lastName_cons, name?_bind, Option.or_assoc]
          split <;> rfl
        rw [readMembers, parsed]
        exact bind_eq_ok_iff.2 ⟨name, rfl, rest⟩

theorem read_eq_ok_iff : read value = .ok b ↔ Means value b := by
  constructor
  · intro h
    cases value with
    | object members defect =>
      obtain ⟨result, all, rest⟩ := bind_eq_ok_iff.1 h
      obtain ⟨⟨⟩, sound, same⟩ := bind_eq_ok_iff.1 rest
      cases same
      obtain ⟨entries, rfl, names⟩ := readMembers_eq_ok_iff.1 all
      cases defect with
      | none => exact ⟨entries, rfl, fun role => (names role).trans (Option.or_none ..)⟩
      | some defect => cases sound
    | number number => cases number <;> cases h
    | _ => cases h
  · rintro ⟨entries, rfl, names⟩
    refine bind_eq_ok_iff.2 ⟨b, ?_, bind_eq_ok_iff.2 ⟨(), rfl, rfl⟩⟩
    exact readMembers_eq_ok_iff.2 ⟨entries, rfl, fun role => (names role).trans (Option.or_none ..).symm⟩

end Bindings

namespace JsonKind

def single : JsonKind Float32 := ⟨Json.readSingle, Json.MeansSingle, Json.readSingle_eq_ok_iff⟩

def count : JsonKind UInt16 := ⟨Json.readUInt16, Json.MeansCount, Json.readUInt16_eq_ok_iff⟩

def flag : JsonKind Bool := ⟨Json.readBool, Json.MeansFlag, Json.readBool_eq_ok_iff⟩

def text : JsonKind String := ⟨Json.readString, Json.MeansText, Json.readString_eq_ok_iff⟩

def optionalText : JsonKind (Option String) :=
  ⟨Json.readOptionalString, Json.MeansOptionalText, Json.readOptionalString_eq_ok_iff⟩

def bindings : JsonKind Bindings := ⟨Bindings.read, Bindings.Means, Bindings.read_eq_ok_iff⟩

end JsonKind

/-! ## What objects describe -/

open Json (Replaced)

variable {text : String} {members : List (String × Json)}

/-- The fields of settings are what an object gives, and else those of the settings `base`. -/
structure Settings.Described (members : List (String × Json)) (base s : Settings) : Prop where
  shadowScale : Replaced members "shadow_scale" Json.MeansSingle base.shadowScale s.shadowScale
  vertexLights :
    Replaced members "vertex_lights_count" Json.MeansCount base.vertexLights s.vertexLights
  fragmentLights :
    Replaced members "fragment_lights_count" Json.MeansCount base.fragmentLights s.fragmentLights
  bones : Replaced members "bones_count" Json.MeansCount base.bones s.bones
  dynamicLights :
    Replaced members "dynamic_lights_count" Json.MeansFlag base.dynamicLights s.dynamicLights
  clipmapSlices : Replaced members "clipmap_slices" Json.MeansCount base.clipmapSlices s.clipmapSlices
  layers : Replaced members "layer_count" Json.MeansCount base.layers s.layers
  defaultBindings :
    Replaced members "default_bindings" Bindings.Means base.defaultBindings s.defaultBindings

/-- The fields of a material are what an object gives, and else those of the material `base`. -/
structure Material.Described (members : List (String × Json)) (base m : Material) : Prop where
  name : Replaced members "name" Json.MeansText base.name m.name
  bindings : Replaced members "bindings" Bindings.Means base.bindings m.bindings
  lighting : Replaced members "lighting" Json.MeansOptionalText base.lighting m.lighting
  worldTransformation :
    Replaced members "world_transformation" Json.MeansOptionalText base.worldTransformation
      m.worldTransformation
  transparent : Replaced members "transparent" Json.MeansFlag base.transparent m.transparent
  receivesShadows :
    Replaced members "receives_shadows" Json.MeansFlag base.receivesShadows m.receivesShadows
  merged : Replaced members "merged" Json.MeansFlag base.merged m.merged

/-! ## What the records are made of -/

def Settings.parts : List (JsonPart Settings) := [
  ⟨"shadow_scale", .single, shadowScale, fun x s => { s with shadowScale := x }, fun _ _ => rfl⟩,
  ⟨"vertex_lights_count", .count, vertexLights, fun x s => { s with vertexLights := x }, fun _ _ => rfl⟩,
  ⟨"fragment_lights_count", .count, fragmentLights, fun x s => { s with fragmentLights := x },
    fun _ _ => rfl⟩,
  ⟨"bones_count", .count, bones, fun x s => { s with bones := x }, fun _ _ => rfl⟩,
  ⟨"dynamic_lights_count", .flag, dynamicLights, fun x s => { s with dynamicLights := x },
    fun _ _ => rfl⟩,
  ⟨"clipmap_slices", .count, clipmapSlices, fun x s => { s with clipmapSlices := x }, fun _ _ => rfl⟩,
  ⟨"layer_count", .count, layers, fun x s => { s with layers := x }, fun _ _ => rfl⟩,
  ⟨"default_bindings", .bindings, defaultBindings, fun x s => { s with defaultBindings := x },
    fun _ _ => rfl⟩]

theorem Settings.described_iff {base s : Settings} : Settings.Described members base s ↔
    ∀ part ∈ parts, Replaced members part.key part.kind.means (part.get base) (part.get s) := by
  simp only [parts, List.forall_mem_cons]
  constructor
  · intro h
    exact ⟨h.shadowScale, h.vertexLights, h.fragmentLights, h.bones, h.dynamicLights, h.clipmapSlices,
      h.layers, h.defaultBindings, fun _ none => absurd none List.not_mem_nil⟩
  · rintro ⟨shadowScale, vertexLights, fragmentLights, bones, dynamicLights, clipmapSlices, layers,
      defaultBindings, -⟩
    exact ⟨shadowScale, vertexLights, fragmentLights, bones, dynamicLights, clipmapSlices, layers,
      defaultBindings⟩

theorem Settings.madeOf : record.MadeOf parts where
  fields := rfl
  keys := by decide
  apart := by
    simp only [parts, List.pairwise_cons, List.forall_mem_cons, List.not_mem_nil, false_implies,
      implies_true, List.Pairwise.nil, and_true]
    and_intros <;> exact ⟨fun _ _ => rfl, fun _ _ => rfl⟩
  ext := by
    intro s t same
    simp only [parts, List.forall_mem_cons] at same
    obtain ⟨shadowScale, vertexLights, fragmentLights, bones, dynamicLights, clipmapSlices, layers,
      defaultBindings, -⟩ := same
    exact Settings.ext shadowScale vertexLights fragmentLights bones dynamicLights clipmapSlices layers
      defaultBindings

def Material.parts : List (JsonPart Material) := [
  ⟨"name", .text, name, fun x m => { m with name := x }, fun _ _ => rfl⟩,
  ⟨"bindings", .bindings, bindings, fun x m => { m with bindings := x }, fun _ _ => rfl⟩,
  ⟨"lighting", .optionalText, lighting, fun x m => { m with lighting := x }, fun _ _ => rfl⟩,
  ⟨"world_transformation", .optionalText, worldTransformation,
    fun x m => { m with worldTransformation := x }, fun _ _ => rfl⟩,
  ⟨"transparent", .flag, transparent, fun x m => { m with transparent := x }, fun _ _ => rfl⟩,
  ⟨"receives_shadows", .flag, receivesShadows, fun x m => { m with receivesShadows := x },
    fun _ _ => rfl⟩,
  ⟨"merged", .flag, merged, fun x m => { m with merged := x }, fun _ _ => rfl⟩]

theorem Material.described_iff {base m : Material} : Material.Described members base m ↔
    ∀ part ∈ parts, Replaced members part.key part.kind.means (part.get base) (part.get m) := by
  simp only [parts, List.forall_mem_cons]
  constructor
  · intro h
    exact ⟨h.name, h.bindings, h.lighting, h.worldTransformation, h.transparent, h.receivesShadows,
      h.merged, fun _ none => absurd none List.not_mem_nil⟩
  · rintro ⟨name, bindings, lighting, worldTransformation, transparent, receivesShadows, merged, -⟩
    exact ⟨name, bindings, lighting, worldTransformation, transparent, receivesShadows, merged⟩

theorem Material.madeOf : record.MadeOf parts where
  fields := rfl
  keys := by decide
  apart := by
    simp only [parts, List.pairwise_cons, List.forall_mem_cons, List.not_mem_nil, false_implies,
      implies_true, List.Pairwise.nil, and_true]
    and_intros <;> exact ⟨fun _ _ => rfl, fun _ _ => rfl⟩
  ext := by
    intro m n same
    simp only [parts, List.forall_mem_cons] at same
    obtain ⟨name, bindings, lighting, worldTransformation, transparent, receivesShadows, merged, -⟩ :=
      same
    exact Material.ext name bindings lighting worldTransformation transparent receivesShadows merged

/-! ## Reading -/

theorem Material.Described.receivesShadows_eq_true {m : Material}
    (described : Material.Described members (.new "") m)
    (said : ("receives_shadows", Json.bool false) ∉ members) : m.receivesShadows = true := by
  by_cases given : "receives_shadows" ∈ members.map Prod.fst
  · obtain ⟨⟨key, value⟩, member, same⟩ := List.mem_map.1 given
    cases same
    have means : value = .bool m.receivesShadows := described.receivesShadows.given value member
    cases shadows : m.receivesShadows with
    | true => rfl
    | false =>
      rw [means, shadows] at member
      exact absurd member said
  · exact described.receivesShadows.absent given

/-- An object with distinct known keys and readable values describes settings, namely the default ones
with exactly the given fields replaced, and a material, namely the new one without a name, likewise. So
a material receives shadows unless the object says that it does not. -/
theorem Json.described_over_defaults (parsed : Json.parse text = ⟨.record members, false⟩)
    (sound : (Json.record members).skip = none) :
    (Settings.record.Readable members →
      ∃ s, Settings.ofText text = .ok s ∧ ∀ t, Settings.Described members {} t ↔ t = s) ∧
    (Material.record.Readable members →
      ∃ m, Material.ofText text = .ok m ∧ (∀ n, Material.Described members (.new "") n ↔ n = m) ∧
        (("receives_shadows", .bool false) ∉ members → m.receivesShadows = true)) ∧
    Material.unset.receivesShadows = false := by
  refine ⟨?_, ?_, rfl⟩
  · intro readable
    obtain ⟨s, read, only⟩ := Settings.madeOf.exists_readText parsed sound readable
    exact ⟨s, read, fun t => Settings.described_iff.trans (only t)⟩
  · intro readable
    obtain ⟨m, read, only⟩ := Material.madeOf.exists_readText parsed sound readable
    have described (n : Material) : Material.Described members (.new "") n ↔ n = m :=
      Material.described_iff.trans (only n)
    exact ⟨m, read, described, ((described m).2 rfl).receivesShadows_eq_true⟩

/-- A field of settings and one of a material, and a nested value that neither of them knows. -/
def Json.sketch : List (String × Json) :=
  [("x", .list [.record []]), ("bindings", .record [("uv", .string "a"), ("uv", .string "b")]),
    ("layer_count", .nat 2)]

def Json.sketchText : String :=
  "\x7b\"x\":[\x7b\x7d],\"bindings\":\x7b\"uv\":\"a\",\"uv\":\"b\"\x7d,\"layer_count\":2\x7d"

theorem Json.parse_sketchText : parse sketchText = ⟨.record sketch, false⟩ := by
  have length : sketchText.length = 57 := by decide
  rw [parse, length]
  simp [sketchText, sketch, parseValue, parseMembers, parseItems, nextToken, isGap, Parsed.ofToken,
    Parsed.ofScalar, JsonText.read, JsonText.readFrom, JsonText.skip, JsonNumber.read, JsonNumber.skip,
    JsonNumber.readUnsigned, JsonNumber.skipUnsigned, JsonNumber.readInteger, JsonNumber.readAfter,
    JsonNumber.skipDigits, JsonNumber.skipFraction, JsonNumber.skipExponent, JsonNumber.ofInteger,
    JsonNumber.digit, record, list, nat, List.dropWhile]

theorem Settings.readable_sketch : Settings.record.Readable Json.sketch :=
  .of_isOk (by decide) (by decide)

theorem Material.readable_sketch : Material.record.Readable Json.sketch :=
  .of_isOk (by decide) (by decide)

theorem Json.sketch_over_defaults :
    Settings.ofText sketchText = .ok { layers := 2 } ∧
    Material.ofText sketchText =
      .ok { Material.new "" with bindings := Bindings.empty.bind .uv "b" } := by
  obtain ⟨settings, material, -⟩ := Json.described_over_defaults parse_sketchText (by decide)
  obtain ⟨s, read, only⟩ := settings Settings.readable_sketch
  obtain ⟨m, read', only', -⟩ := material Material.readable_sketch
  constructor
  · rw [read]
    refine congrArg Except.ok ((only _).1 ?_).symm
    constructor <;> constructor <;> simp [sketch, MeansCount]
  · have twice : Bindings.Means (.record [("uv", .string "a"), ("uv", .string "b")])
        (Bindings.empty.bind .uv "b") :=
      ⟨[(.uv, "a"), (.uv, "b")], rfl, fun role => by cases role <;> rfl⟩
    rw [read']
    refine congrArg Except.ok ((only' _).1 ?_).symm
    constructor <;> constructor <;> simp [sketch, twice]

end ShaderComposition
