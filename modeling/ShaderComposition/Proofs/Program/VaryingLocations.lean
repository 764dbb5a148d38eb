import ShaderComposition.Program.Declaration

/-!
# Locations of varyings

Varyings are given locations one after another: each starts behind those that the varyings in front of it
take, one for every column of every array element. `varyingLines_getElem?` reads this off the lines,
`Takes` says which varying a location belongs to, and each location below the total belongs to exactly
one (`exists_takes`, `takes_unique`).
-/

namespace ShaderComposition.Declaration

variable {lengths : ArrayLengths} {dialect : Dialect} {varyings front : List Parameter} {p : Parameter}
  {i j k location : Nat}

/-- The locations that some varyings take together. -/
def locationCount (lengths : ArrayLengths) : List Parameter → Nat
  | [] => 0
  | p :: rest => p.shape.elementCount lengths * p.shape.type.columns + locationCount lengths rest

/-- The varying at a place takes the location. -/
def Takes (lengths : ArrayLengths) (varyings : List Parameter) (k location : Nat) : Prop :=
  ∃ p, varyings[k]? = some p ∧ locationCount lengths (varyings.take k) ≤ location ∧
    location < locationCount lengths (varyings.take k) + p.shape.slots lengths

@[simp] theorem locationCount_nil : locationCount lengths [] = 0 := rfl

@[simp] theorem locationCount_cons :
    locationCount lengths (p :: varyings) = p.shape.slots lengths + locationCount lengths varyings :=
  rfl

theorem locationCount_append (front back : List Parameter) :
    locationCount lengths (front ++ back) = locationCount lengths front + locationCount lengths back := by
  induction front with
  | nil => exact (Nat.zero_add _).symm
  | cons p front ih => rw [List.cons_append, locationCount_cons, locationCount_cons, ih, Nat.add_assoc]

theorem locationCount_le_of_front (h : front <+: varyings) :
    locationCount lengths front ≤ locationCount lengths varyings := by
  obtain ⟨back, rfl⟩ := h
  rw [locationCount_append]
  exact Nat.le_add_right _ _

/-- A varying ends where the next one starts. -/
theorem locationCount_take_succ (h : varyings[k]? = some p) :
    locationCount lengths (varyings.take (k + 1)) =
      locationCount lengths (varyings.take k) + p.shape.slots lengths := by
  rw [List.take_add_one, h, locationCount_append, Option.toList_some, locationCount_cons,
    locationCount_nil, Nat.add_zero]

/-! ## What the lines say -/

/-- The line of a varying gives the locations that the varyings in front of it take. -/
theorem varyingLines_getElem? (dialect : Dialect) (stage : Stage) (lengths : ArrayLengths)
    (location : Nat) (varyings : List Parameter) (k : Nat) :
    (varyingLines dialect stage lengths location varyings)[k]? = varyings[k]?.map fun p =>
      p.declarationLine (varyingKeyword dialect stage
        (location + locationCount lengths (varyings.take k)) p) lengths := by
  induction varyings generalizing location k with
  | nil => rfl
  | cons q varyings ih =>
    cases k with
    | zero => rfl
    | succ k =>
      rw [varyingLines, List.getElem?_cons_succ, List.getElem?_cons_succ, ih, List.take_succ_cons,
        locationCount_cons, Nat.add_assoc]

/-- The words in front of the direction of a varying at a location. -/
def located (location : Nat) (p : Parameter) : String :=
  "layout(location = " ++ toString location ++ ") " ++ if p.shape.type.isInteger then "flat " else ""

/-- What stands behind the direction of a varying. -/
def declared (lengths : ArrayLengths) (p : Parameter) : String :=
  " " ++ p.declaration lengths ++ ";" ++ if p.source = "" then "" else " /* " ++ p.source ++ " */"

theorem layout_eq (fits : location < 4294967296) :
    layout location ++ " " = "layout(location = " ++ toString location ++ ") " := by
  have word : location % 4294967296 = location := Nat.mod_eq_of_lt fits
  have number : layout location = "layout(location = " ++ toString location ++ ")" :=
    congrArg (fun n => "layout(location = " ++ toString n ++ ")") word
  exact (congrArg (· ++ " ") number).trans String.append_assoc

theorem varyingKeyword_eq (explicit : 410 ≤ dialect.version) (stage : Stage)
    (fits : location < 4294967296) (p : Parameter) :
    varyingKeyword dialect stage location p = located location p ++ direction stage := by
  have newer : 130 ≤ dialect.version := Nat.le_trans (by decide) explicit
  have words : varyingKeyword dialect stage location p =
      layout location ++ " " ++ (if p.shape.type.isInteger then "flat " else "") ++
        direction stage := by
    rw [varyingKeyword, Dialect.usesInOut, Dialect.usesVaryingLocations, decide_eq_true newer,
      decide_eq_true explicit, if_pos rfl, if_pos rfl]
  exact words.trans (congrArg (· ++ (if p.shape.type.isInteger then "flat " else "") ++
    direction stage) (layout_eq fits))

/-- Both stages write down a varying alike but for its direction. -/
theorem declarationLine_eq (explicit : 410 ≤ dialect.version) (stage : Stage)
    (fits : location < 4294967296) (p : Parameter) :
    p.declarationLine (varyingKeyword dialect stage location p) lengths =
      located location p ++ direction stage ++ declared lengths p := by
  have written : located location p ++ direction stage ≠ "" := by
    cases stage <;> simp [direction]
  rw [varyingKeyword_eq explicit stage fits, Parameter.declarationLine, if_neg written, declared]
  simp only [String.append_assoc]

/-! ## Whose a location is -/

theorem takes_first (h : k < varyings.length) :
    Takes lengths varyings k (locationCount lengths (varyings.take k)) := by
  refine ⟨varyings[k], List.getElem?_eq_getElem h, Nat.le_refl _, ?_⟩
  exact Nat.lt_add_of_pos_right (Shape.slots_pos _ _)

/-- A location that a varying takes lies in front of all later varyings. -/
theorem Takes.lt_of_lt (h : Takes lengths varyings i location) (later : i < j) :
    location < locationCount lengths (varyings.take j) := by
  obtain ⟨p, found, -, below⟩ := h
  rw [← locationCount_take_succ found] at below
  exact Nat.lt_of_lt_of_le below (locationCount_le_of_front (List.take_prefix_take_left later))

theorem Takes.lt_locationCount (h : Takes lengths varyings k location) :
    location < locationCount lengths varyings := by
  obtain ⟨p, found, -, below⟩ := h
  rw [← locationCount_take_succ found] at below
  exact Nat.lt_of_lt_of_le below (locationCount_le_of_front (List.take_prefix _ _))

theorem takes_unique (first : Takes lengths varyings i location)
    (second : Takes lengths varyings j location) : i = j := by
  rcases Nat.lt_trichotomy i j with less | same | more
  · have below := first.lt_of_lt less
    obtain ⟨_, -, above, -⟩ := second
    omega
  · exact same
  · have below := second.lt_of_lt more
    obtain ⟨_, -, above, -⟩ := first
    omega

/-- No location below the total is left out. -/
theorem exists_takes (h : location < locationCount lengths varyings) :
    ∃ k, Takes lengths varyings k location := by
  induction varyings generalizing location with
  | nil => exact absurd h (Nat.not_lt_zero _)
  | cons p varyings ih =>
    rw [locationCount_cons] at h
    by_cases here : location < p.shape.slots lengths
    · exact ⟨0, p, rfl, Nat.zero_le _, by simpa using here⟩
    · have behind : location - p.shape.slots lengths < locationCount lengths varyings := by omega
      obtain ⟨k, q, found, above, below⟩ := ih behind
      refine ⟨k + 1, q, found, ?_, ?_⟩
      · rw [List.take_succ_cons, locationCount_cons]
        omega
      · rw [List.take_succ_cons, locationCount_cons]
        omega

/--
In a dialect with explicit locations, and as long as all of them fit into a word, both stages give a
varying the location where those in front of it end, and write it down alike but for `out` and `in`.
Every varying takes some location, no location belongs to two, and together they are all the locations
from zero on up to the total.
-/
theorem varyings_tile_locations (lengths : ArrayLengths) (varyings : List Parameter)
    (explicit : 410 ≤ dialect.version) (fits : locationCount lengths varyings < 4294967296) :
    (∀ k, (varyingLines dialect .vertex lengths 0 varyings)[k]? = varyings[k]?.map fun p =>
        located (locationCount lengths (varyings.take k)) p ++ "out" ++ declared lengths p) ∧
      (∀ k, (varyingLines dialect .fragment lengths 0 varyings)[k]? = varyings[k]?.map fun p =>
        located (locationCount lengths (varyings.take k)) p ++ "in" ++ declared lengths p) ∧
      (∀ k < varyings.length, Takes lengths varyings k (locationCount lengths (varyings.take k))) ∧
      (∀ i j location, Takes lengths varyings i location → Takes lengths varyings j location → i = j) ∧
      ∀ location, location < locationCount lengths varyings ↔
        ∃ k, Takes lengths varyings k location := by
  have line (stage : Stage) (k : Nat) :
      (varyingLines dialect stage lengths 0 varyings)[k]? = varyings[k]?.map fun p =>
        located (locationCount lengths (varyings.take k)) p ++ direction stage ++
          declared lengths p := by
    have among : locationCount lengths (varyings.take k) < 4294967296 :=
      Nat.lt_of_le_of_lt (locationCount_le_of_front (List.take_prefix k varyings)) fits
    simp only [varyingLines_getElem?, Nat.zero_add, declarationLine_eq explicit stage among]
  exact ⟨line .vertex, line .fragment, fun k => takes_first, fun i j location => takes_unique,
    fun location => ⟨exists_takes, fun ⟨k, taken⟩ => taken.lt_locationCount⟩⟩

/-- Two matrices for each of four lights take 24 locations, in front of an integer and an array. -/
theorem varyings_behind_matrices :
    let lengths := ArrayLengths.ofCounts [(.lights, 4)]
    let matrices : Parameter :=
      { name := "light_spaces"
        shape := { type := .data .mat3, sizeClass := .lights, scale := .ofUInt16 2 } }
    let layer : Parameter := { name := "layer", shape := { type := .data .ivec2 } }
    let weights : Parameter :=
      { name := "weights", shape := { type := .data .vec4, scale := .ofUInt16 3 }, source := "terrain" }
    let varyings := [matrices, layer, weights]
    410 ≤ Dialect.glsl410.version ∧ locationCount lengths varyings = 28 ∧
      (varyingLines .glsl410 .vertex lengths 0 varyings)[1]? =
        some "layout(location = 24) flat out ivec2 layer;" ∧
      (varyingLines .glsl410 .fragment lengths 0 varyings)[2]? =
        some "layout(location = 25) in vec4 weights[3]; /* terrain */" ∧
      ∃ k, Takes lengths varyings k 23 := by
  intro lengths matrices layer weights varyings
  have explicit : 410 ≤ Dialect.glsl410.version := by decide
  have total : locationCount lengths varyings = 28 := by decide
  obtain ⟨outputs, inputs, -, -, taken⟩ :=
    varyings_tile_locations lengths varyings explicit (by rw [total]; decide)
  refine ⟨explicit, total, (outputs 1).trans ?_, (inputs 2).trans ?_, (taken 23).1 ?_⟩
  · decide
  · decide
  · rw [total]
    decide

end ShaderComposition.Declaration
