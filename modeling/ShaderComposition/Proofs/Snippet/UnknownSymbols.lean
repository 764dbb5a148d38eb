import Mathlib.Data.List.Forall2
import ShaderComposition.Proofs.Glsl.TypeNames
import ShaderComposition.Proofs.Scope.Refusal
import ShaderComposition.Proofs.Snippet.Resolving

/-!
# The first unknown symbol

A definition is read from front to back, and `Definition.uses` lists the texts that are to spell symbols in
that order. What comes of reading some texts is `Reads`: the first one that is unknown is the cause of a
refusal, and where all are known there is a result. Steps that are taken one after another read their texts
one after another (`Reads.bind`), so the lists of the steps add up to that of the definition. Where it is
resolved, `Denotes` says which parameter each of its references stands for.
-/

namespace ShaderComposition

open Vocabulary (spelling)

section Results

variable {α β : Type} {ε : Type} {x : Except ε α} {f : α → Except ε β} {xs : List α} {ys : List β}

theorem map_eq_ok_iff {g : α → β} {b : β} : g <$> x = .ok b ↔ ∃ a, x = .ok a ∧ g a = b := by
  cases x <;> simp [Functor.map, Except.map]

/-- A list of results is made of one result for each item, in order. -/
theorem mapM_eq_ok (h : xs.mapM f = .ok ys) : List.Forall₂ (fun x y => f x = .ok y) xs ys := by
  induction xs generalizing ys with
  | nil =>
    cases h
    exact .nil
  | cons x xs ih =>
    rw [List.mapM_cons] at h
    obtain ⟨y, first, h⟩ := bind_eq_ok_iff.1 h
    obtain ⟨rest, later, h⟩ := bind_eq_ok_iff.1 h
    cases h
    exact .cons first (ih later)

end Results

theorem Scale.toNat_ofUInt16 (count : UInt16) : (ofUInt16 count).toNat = max 1 count.toNat := by
  unfold ofUInt16
  split
  next zero =>
    subst zero
    rfl
  next some =>
    have positive : 0 < count.toNat := Nat.pos_of_ne_zero fun zero => some (UInt16.toNat_inj.1 zero)
    exact (Nat.max_eq_right positive).symm

theorem SymbolSet.isEmpty_eq_false {α : Type} [DecidableEq α] [Vocabulary α] {s : SymbolSet α}
    (h : ∃ a, s.contains a = true) : s.isEmpty = false := by
  obtain ⟨a, member⟩ := h
  refine Bool.eq_false_iff.2 fun none => ?_
  rw [isEmpty_iff.1 none, contains_empty] at member
  cases member

/-- A text that is to spell a symbol of a catalog. -/
structure SymbolUse where
  catalog : String
  /-- The texts that spell something in the catalog. -/
  table : List String
  text : String
deriving DecidableEq

namespace SymbolUse

/-- A text that is looked up in a vocabulary. -/
def of (α : Type) [DecidableEq α] [Vocabulary α] (text : String) : SymbolUse :=
  ⟨Vocabulary.catalog α, (Vocabulary.all α).map spelling, text⟩

/-- A text that is looked up among the types of both kinds, one of which can be written in two ways. -/
def ofType (text : String) : SymbolUse :=
  ⟨Vocabulary.catalog DataType, "unsigned int" :: GlslType.all.map GlslType.spelling, text⟩

def Known (u : SymbolUse) : Prop :=
  u.text ∈ u.table

instance : DecidablePred Known := fun u => inferInstanceAs (Decidable (u.text ∈ u.table))

/-- The report that the text is unknown. -/
def refusal (u : SymbolUse) : BuildError :=
  .unknownSymbol u.catalog u.text

/-- The first of some texts that is unknown. -/
def firstUnknown? (uses : List SymbolUse) : Option SymbolUse :=
  uses.find? fun u => ¬ u.Known

theorem firstUnknown?_append (us vs : List SymbolUse) :
    firstUnknown? (us ++ vs) = (firstUnknown? us).or (firstUnknown? vs) :=
  List.find?_append

theorem firstUnknown?_eq_none_iff {us : List SymbolUse} :
    firstUnknown? us = none ↔ ∀ u ∈ us, u.Known := by
  simp [firstUnknown?]

theorem known_of_iff {α : Type} [DecidableEq α] [Vocabulary α] {text : String} :
    (of α text).Known ↔ ∃ a : α, spelling a = text := by
  simp [of, Known, Vocabulary.complete]

end SymbolUse

namespace GlslType

/-- The text stands for the type: it is the type's spelling or the other way to write it. -/
def WrittenAs (type : GlslType) (text : String) : Prop :=
  text = type.spelling ∨ text = "unsigned int" ∧ type = .data .uint

theorem mem_all (type : GlslType) : type ∈ all := by
  cases type with
  | data d => exact List.mem_append_left _ (List.mem_map_of_mem (Vocabulary.complete d))
  | sampler k => exact List.mem_append_right _ (List.mem_map_of_mem (Vocabulary.complete k))

/-- A text is read as the type that it stands for. -/
theorem ofSpelling?_eq_some_iff {text : String} {type : GlslType} :
    ofSpelling? text = some type ↔ type.WrittenAs text := by
  constructor
  · intro read
    have spelled : type.spelling = normalize text := by
      rcases Option.or_eq_some_iff.1 read with data | ⟨-, sampler⟩
      · obtain ⟨d, found, rfl⟩ := Option.map_eq_some_iff.1 data
        exact Vocabulary.spelling_of_symbol? found
      · obtain ⟨k, found, rfl⟩ := Option.map_eq_some_iff.1 sampler
        exact Vocabulary.spelling_of_symbol? found
    by_cases other : text = "unsigned int"
    · subst other
      exact .inr ⟨rfl, Option.some.inj (read.symm.trans (by decide))⟩
    · rw [normalize, if_neg other] at spelled
      exact .inl spelled.symm
  · rintro (rfl | ⟨rfl, rfl⟩)
    · exact ofSpelling?_spelling type
    · decide

theorem parse_eq_ok_iff {text : String} {type : GlslType} :
    parse text = .ok type ↔ type.WrittenAs text := by
  rw [← ofSpelling?_eq_some_iff, parse]
  cases ofSpelling? text <;> simp

theorem known_ofType_iff {text : String} :
    (SymbolUse.ofType text).Known ↔ ∃ type : GlslType, type.WrittenAs text := by
  simp only [SymbolUse.ofType, SymbolUse.Known, List.mem_cons, List.mem_map]
  constructor
  · rintro (rfl | ⟨type, -, rfl⟩)
    · exact ⟨_, .inr ⟨rfl, rfl⟩⟩
    · exact ⟨type, .inl rfl⟩
  · rintro ⟨type, rfl | ⟨rfl, -⟩⟩
    · exact .inr ⟨type, mem_all type, rfl⟩
    · exact .inl rfl

end GlslType

/-! ## Reading texts in order -/

/-- What comes of reading texts: the first that is unknown refuses, and where none is there is a result. -/
def Reads {α : Type} (uses : List SymbolUse) (result : Except BuildError α) : Prop :=
  match SymbolUse.firstUnknown? uses with
  | some u => result = .error u.refusal
  | none => ∃ a, result = .ok a

namespace Reads

variable {α β : Type} {us vs : List SymbolUse} {x : Except BuildError α} {u : SymbolUse}

theorem eq_error_iff (h : Reads us x) {e : BuildError} :
    x = .error e ↔ ∃ u, SymbolUse.firstUnknown? us = some u ∧ e = u.refusal := by
  unfold Reads at h
  split at h
  next u first =>
    simp only [h, first, Option.some.injEq, Except.error.injEq, exists_eq_left', eq_comm]
  next none =>
    obtain ⟨a, rfl⟩ := h
    simp [none]

theorem exists_ok_iff (h : Reads us x) : (∃ a, x = .ok a) ↔ ∀ u ∈ us, u.Known := by
  rw [← SymbolUse.firstUnknown?_eq_none_iff]
  unfold Reads at h
  split at h
  next u first => simp [h, first]
  next none => simp only [h, none]

/-- A step that reads no text has a result. -/
theorem pure (a : α) : Reads [] (.ok a) :=
  ⟨a, rfl⟩

/-- A step that reads one text. -/
theorem one (known : u.Known → ∃ a, x = .ok a) (unknown : ¬ u.Known → x = .error u.refusal) :
    Reads [u] x := by
  unfold Reads SymbolUse.firstUnknown?
  by_cases h : u.Known
  · simpa [h] using known h
  · simpa [h] using unknown h

/-- The second of two steps reads its texts behind those of the first. -/
theorem bind {f : α → Except BuildError β} (first : Reads us x)
    (second : ∀ a, x = .ok a → Reads vs (f a)) : Reads (us ++ vs) (x >>= f) := by
  unfold Reads at first ⊢
  rw [SymbolUse.firstUnknown?_append]
  cases unknown : SymbolUse.firstUnknown? us with
  | some u =>
    rw [unknown] at first
    rw [first]
    rfl
  | none =>
    rw [unknown] at first
    obtain ⟨a, rfl⟩ := first
    exact second a rfl

theorem map (h : Reads us x) (f : α → β) : Reads us (f <$> x) := by
  have step : f <$> x = x >>= fun a => .ok (f a) := by
    cases x <;> rfl
  rw [step, ← us.append_nil]
  exact h.bind fun a _ => .pure (f a)

/-- The items of a list are read one after another. -/
theorem mapM {f : β → Except BuildError α} {uses : β → List SymbolUse}
    (each : ∀ b, Reads (uses b) (f b)) (bs : List β) : Reads (bs.flatMap uses) (bs.mapM f) := by
  induction bs with
  | nil => exact .pure []
  | cons b bs ih =>
    rw [List.mapM_cons, List.flatMap_cons]
    exact (each b).bind fun a _ => ih.map (a :: ·)

variable [DecidableEq α] [Vocabulary α]

theorem parse (α : Type) [DecidableEq α] [Vocabulary α] (text : String) :
    Reads [.of α text] (Vocabulary.parse α text) := by
  refine one (fun known => ?_) fun unknown => ?_
  · obtain ⟨a, spelled⟩ := SymbolUse.known_of_iff.1 known
    exact ⟨a, Vocabulary.parse_eq_ok_iff.2 spelled⟩
  · cases found : (Vocabulary.symbol? text : Option α) with
    | none => rw [Vocabulary.parse, found]; rfl
    | some a =>
      exact absurd (SymbolUse.known_of_iff.2 ⟨a, Vocabulary.spelling_of_symbol? found⟩) unknown

/-- A text that is left out is not read. -/
theorem parseOr (default : α) (text : Option String) :
    Reads (text.toList.map (.of α)) (Vocabulary.parseOr default text) := by
  cases text with
  | none => exact .pure default
  | some text => exact .parse α text

theorem parseType (text : String) : Reads [.ofType text] (GlslType.parse text) := by
  refine one (fun known => ?_) fun unknown => ?_
  · obtain ⟨type, written⟩ := GlslType.known_ofType_iff.1 known
    exact ⟨type, by rw [GlslType.parse, GlslType.ofSpelling?_eq_some_iff.2 written]⟩
  · cases found : GlslType.ofSpelling? text with
    | none => rw [GlslType.parse, found]; rfl
    | some type =>
      have written := GlslType.ofSpelling?_eq_some_iff.1 found
      exact absurd (GlslType.known_ofType_iff.2 ⟨type, written⟩) unknown

/-- The texts of a set are read in order. -/
theorem parseSet (default : SymbolSet α) (texts : List String) :
    Reads (texts.map (.of α)) (SymbolSet.parseOr default texts) := by
  cases texts with
  | nil => exact .pure default
  | cons first rest =>
    have one : (first :: rest).map (SymbolUse.of α) = (first :: rest).flatMap fun t => [.of α t] :=
      List.map_eq_flatMap
    rw [one]
    exact (Reads.mapM (.parse α) _).map _

end Reads

/-! ## Parameters -/

namespace ParameterReference

open Catalog (readBy)

/-- The texts of a reference that are to spell symbols, in the order in which they are read. -/
def uses : ParameterReference → List SymbolUse
  | engineUniform name => [.of EngineUniform name]
  | sharedValue name qualifier => .of SharedValue name :: qualifier.toList.map (.of Qualifier)
  | vertexAttribute name => [.of VertexAttribute name]
  | textureSlot name type => .of TextureSlot name :: type.toList.map .ofType
  | custom _ type qualifier size _ =>
    size.toList.map (.of SizeClass) ++ .ofType type :: qualifier.toList.map (.of Qualifier)

theorem reads_resolve (r : ParameterReference) : Reads r.uses r.resolve := by
  cases r with
  | engineUniform name => exact (Reads.parse EngineUniform name).map _
  | sharedValue name qualifier =>
    exact (Reads.parse SharedValue name).bind fun v _ => (Reads.parseOr Qualifier.input qualifier).map _
  | vertexAttribute name => exact (Reads.parse VertexAttribute name).map _
  | textureSlot name type =>
    cases type with
    | none => exact (Reads.parse TextureSlot name).map _
    | some type => exact (Reads.parse TextureSlot name).bind fun slot _ => (Reads.parseType type).map _
  | custom name type qualifier size scale =>
    refine (Reads.parseOr SizeClass.one size).bind fun sizeClass _ => ?_
    refine (Reads.parseType type).bind fun type _ => ?_
    exact (Reads.parseOr Qualifier.input qualifier).map _

/--
The parameter that a reference stands for. A reference to a catalog stands for the parameter of its
symbol, with the catalog's name and size; what is left out of a reference has its default.
-/
inductive Denotes (source : String) : ParameterReference → Parameter → Prop
  | engineUniform (u : EngineUniform) : Denotes source (.engineUniform (spelling u)) (readBy u source)
  | sharedValue (v : SharedValue) (qualifier : Option Qualifier) :
    Denotes source (.sharedValue (spelling v) (qualifier.map spelling))
      ((readBy v source).withQualifier (qualifier.getD .input))
  | vertexAttribute (a : VertexAttribute) :
    Denotes source (.vertexAttribute (spelling a)) (readBy a source)
  | textureSlot (slot : TextureSlot) :
    Denotes source (.textureSlot (spelling slot) none) (readBy slot source)
  | typedSlot (slot : TextureSlot) {type : GlslType} {text : String} (written : type.WrittenAs text) :
    Denotes source (.textureSlot (spelling slot) (some text)) ((readBy slot source).withType type)
  | custom (name : String) {type : GlslType} {text : String} (written : type.WrittenAs text)
    (qualifier : Option Qualifier) (size : Option SizeClass) (count : Option UInt16) {scale : Scale}
    (counted : scale.toNat = max 1 (count.getD 1).toNat) :
    Denotes source (.custom name text (qualifier.map spelling) (size.map spelling) count)
      { name
        shape := { type, sizeClass := size.getD .one, scale }
        qualifier := qualifier.getD .input
        source }

variable {r : ParameterReference} {p : Parameter}

/-- A reference is resolved to the parameter that it stands for. -/
theorem denotes_of_resolve (h : r.resolve = .ok p) (source : String) :
    Denotes source r (p.withSource source) := by
  cases r with
  | engineUniform name =>
    obtain ⟨u, read, rfl⟩ := map_eq_ok_iff.1 h
    cases Vocabulary.parse_eq_ok_iff.1 read
    exact .engineUniform u
  | sharedValue name qualifier =>
    obtain ⟨v, read, h⟩ := bind_eq_ok_iff.1 h
    obtain ⟨q, qualified, rfl⟩ := map_eq_ok_iff.1 h
    obtain ⟨written, rfl, rfl⟩ := Vocabulary.parseOr_cases qualified
    cases Vocabulary.parse_eq_ok_iff.1 read
    exact .sharedValue v written
  | vertexAttribute name =>
    obtain ⟨a, read, rfl⟩ := map_eq_ok_iff.1 h
    cases Vocabulary.parse_eq_ok_iff.1 read
    exact .vertexAttribute a
  | textureSlot name type =>
    cases type with
    | none =>
      obtain ⟨slot, read, rfl⟩ := map_eq_ok_iff.1 h
      cases Vocabulary.parse_eq_ok_iff.1 read
      exact .textureSlot slot
    | some text =>
      obtain ⟨slot, read, h⟩ := bind_eq_ok_iff.1 h
      obtain ⟨type, typed, rfl⟩ := map_eq_ok_iff.1 h
      cases Vocabulary.parse_eq_ok_iff.1 read
      exact .typedSlot slot (GlslType.parse_eq_ok_iff.1 typed)
  | custom name text qualifier size count =>
    obtain ⟨sizeClass, sized, h⟩ := bind_eq_ok_iff.1 h
    obtain ⟨type, typed, h⟩ := bind_eq_ok_iff.1 h
    obtain ⟨q, qualified, rfl⟩ := map_eq_ok_iff.1 h
    obtain ⟨writtenSize, rfl, rfl⟩ := Vocabulary.parseOr_cases sized
    obtain ⟨written, rfl, rfl⟩ := Vocabulary.parseOr_cases qualified
    exact .custom name (GlslType.parse_eq_ok_iff.1 typed) written writtenSize count
      (Scale.toNat_ofUInt16 _)

end ParameterReference

/-! ## Definitions -/

namespace Snippet.Definition

variable {d : Definition} {s : Snippet}

/-- The texts of a definition that are to spell symbols, in the order in which they are read. -/
def uses (d : Definition) : List SymbolUse :=
  [.of Role d.role] ++ d.stages.map (.of Stage) ++ d.dialects.map (.of Dialect) ++
    d.packing.toList.map (.of Packing) ++ d.parameters.flatMap ParameterReference.uses

/-- How the parameters of a definition are declared: `role: name`. -/
def writtenLabel (d : Definition) : String :=
  d.role ++ ": " ++ d.name

/-- The snippet is what a definition says, and has the defaults for what it leaves out. -/
structure Describes (d : Definition) (s : Snippet) : Prop where
  role : spelling s.role = d.role
  name : s.name = d.name
  body : s.body = d.body
  packing : spelling s.packing = d.packing.getD (spelling Packing.default)
  stages : ∀ stage, s.stages.contains stage = true ↔
    d.stages = [] ∧ s.role.defaultStages.contains stage = true ∨ spelling stage ∈ d.stages
  dialects : ∀ dialect, s.dialects.contains dialect = true ↔
    d.dialects = [] ∨ spelling dialect ∈ d.dialects
  usable : s.stages.isEmpty = false ∧ s.dialects.isEmpty = false
  /-- Each reference stands for the parameter at its place. -/
  parameters : List.Forall₂ (ParameterReference.Denotes d.writtenLabel) d.parameters s.parameters
  marked : ∀ p ∈ s.parameters, p.source = d.writtenLabel ∧ 1 ≤ p.shape.scale.toNat

theorem reads_resolve (d : Definition) : Reads d.uses d.resolve := by
  simp only [uses, List.append_assoc]
  refine (Reads.parse Role d.role).bind fun role _ => ?_
  refine (Reads.parseSet role.defaultStages d.stages).bind fun stages _ => ?_
  refine (Reads.parseSet .full d.dialects).bind fun dialects _ => ?_
  refine (Reads.parseOr Packing.default d.packing).bind fun packing _ => ?_
  exact (Reads.mapM ParameterReference.reads_resolve d.parameters).map _

theorem describes_of_resolve (h : d.resolve = .ok s) : d.Describes s := by
  obtain ⟨role, name, body, stages, dialects, packing, ps, resolved, listed⟩ := resolve_eq_ok h
  have spelled := Vocabulary.parse_eq_ok_iff.1 role
  have label : s.label = d.writtenLabel := by
    rw [label, labelFor, spelled, name, writtenLabel]
  rw [label] at listed
  have parameters : List.Forall₂ (ParameterReference.Denotes d.writtenLabel) d.parameters
      s.parameters := by
    rw [listed, List.forall₂_map_right_iff]
    exact (mapM_eq_ok resolved).imp fun r p h => ParameterReference.denotes_of_resolve h _
  refine ⟨spelled, name, body, Vocabulary.spelling_of_parseOr packing,
    SymbolSet.contains_of_parseOr stages, fun dialect => ?_, ⟨?_, ?_⟩, parameters, ?_⟩
  · rw [SymbolSet.contains_of_parseOr dialects]
    simp only [SymbolSet.contains_full, and_true]
  · exact SymbolSet.isEmpty_eq_false
      (SymbolSet.exists_contains_of_parseOr stages s.role.exists_defaultStage)
  · exact SymbolSet.isEmpty_eq_false
      (SymbolSet.exists_contains_of_parseOr dialects ⟨.glsl120, SymbolSet.contains_full _⟩)
  · intro p hp
    rw [listed] at hp
    obtain ⟨q, -, rfl⟩ := List.mem_map.1 hp
    exact ⟨rfl, q.shape.scale.toNat_pos⟩

/--
A definition is resolved just where every symbol that it uses is known, and otherwise refused because of
the first that is not, in the order of its role, stages, dialects, packing and parameters. What it is
resolved to is a snippet for the stages and dialects that it lists, or for the usual ones, with the
parameters that its references stand for, one for each and in order.
-/
theorem resolve_reports_first_unknown (d : Definition) :
    ((∃ s, d.resolve = .ok s) ↔ ∀ u ∈ d.uses, u.Known) ∧
      (∀ e, d.resolve = .error e ↔ ∃ u, SymbolUse.firstUnknown? d.uses = some u ∧
        e = .unknownSymbol u.catalog u.text) ∧
      ∀ s, d.resolve = .ok s → d.Describes s :=
  ⟨d.reads_resolve.exists_ok_iff, fun _ => d.reads_resolve.eq_error_iff,
    fun _ => describes_of_resolve⟩

/-- With a reference of each kind, and with an unknown stage in front of an unknown dialect. -/
theorem blended_first_unknown :
    let blended : Definition := {
      role := "diffuse_mapping"
      name := "blended"
      dialects := ["330", "150"]
      packing := some "merged"
      parameters := [
        .engineUniform "blend_sizes", .sharedValue "albedo" (some "out"), .vertexAttribute "color",
        .textureSlot "blend_sampler" (some "sampler2DArray"),
        .custom "layer" "unsigned int" none (some "layers") (some 0)]
      body := "" }
    let misspelt := { blended with stages := ["fragment", "pixel"], dialects := ["331"] }
    (∃ s, blended.resolve = .ok s ∧ blended.Describes s) ∧
      misspelt.resolve = .error (.unknownSymbol "stage" "pixel") := by
  intro blended misspelt
  obtain ⟨resolved, -, described⟩ := resolve_reports_first_unknown blended
  obtain ⟨-, reported, -⟩ := resolve_reports_first_unknown misspelt
  obtain ⟨s, ok⟩ := resolved.2 (by decide +kernel)
  have first : SymbolUse.firstUnknown? misspelt.uses = some (.of Stage "pixel") := by decide +kernel
  exact ⟨⟨s, ok, described s ok⟩, (reported _).2 ⟨_, first, rfl⟩⟩

end Snippet.Definition

end ShaderComposition
