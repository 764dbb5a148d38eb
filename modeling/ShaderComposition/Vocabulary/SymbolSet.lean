import ShaderComposition.Vocabulary

/-!
# Sets of symbols

A set of symbols is a bit vector with one bit for each place of the vocabulary. What a set holds is
read through `contains`; `toList` lists its members in the vocabulary's order.
-/

namespace ShaderComposition

/-- A set of symbols of one vocabulary, bit `i` standing for the symbol at place `i`. -/
@[ext]
structure SymbolSet (α : Type) [DecidableEq α] [Vocabulary α] where
  bits : BitVec (Vocabulary.all α).length

namespace SymbolSet

open Vocabulary

variable {α : Type} [DecidableEq α] [Vocabulary α]

instance : DecidableEq (SymbolSet α) := fun s t =>
  decidable_of_iff (s.bits = t.bits) SymbolSet.ext_iff.symm

def empty : SymbolSet α :=
  ⟨0⟩

/-- The set of all symbols. -/
def full : SymbolSet α :=
  ⟨BitVec.allOnes _⟩

/-- The set that holds one symbol. -/
def singleton (a : α) : SymbolSet α :=
  ⟨BitVec.twoPow _ (position a)⟩

def contains (s : SymbolSet α) (a : α) : Bool :=
  s.bits.getLsbD (position a)

def union (s t : SymbolSet α) : SymbolSet α :=
  ⟨s.bits ||| t.bits⟩

def inter (s t : SymbolSet α) : SymbolSet α :=
  ⟨s.bits &&& t.bits⟩

/-- The set of the members of a list. -/
def ofList (symbols : List α) : SymbolSet α :=
  symbols.foldl (fun s a => s.union (singleton a)) empty

/-- The members, in the vocabulary's order. -/
def toList (s : SymbolSet α) : List α :=
  (all α).filter s.contains

def isEmpty (s : SymbolSet α) : Bool :=
  s.bits == 0

@[simp] theorem contains_empty (a : α) : (empty : SymbolSet α).contains a = false := by
  simp [contains, empty]

@[simp] theorem contains_full (a : α) : (full : SymbolSet α).contains a = true := by
  simp [contains, full, position_lt]

@[simp] theorem contains_singleton (a b : α) : (singleton a).contains b = decide (a = b) := by
  have same : position b = position a ↔ a = b :=
    ⟨fun h => (position_injective h).symm, fun h => congrArg _ h.symm⟩
  simp [contains, singleton, position_lt, same]

@[simp] theorem contains_union (s t : SymbolSet α) (a : α) :
    (s.union t).contains a = (s.contains a || t.contains a) := by
  simp [contains, union]

@[simp] theorem contains_inter (s t : SymbolSet α) (a : α) :
    (s.inter t).contains a = (s.contains a && t.contains a) := by
  simp [contains, inter]

theorem contains_foldl_union (symbols : List α) (s : SymbolSet α) (a : α) :
    (symbols.foldl (fun s b => s.union (singleton b)) s).contains a =
      (s.contains a || decide (a ∈ symbols)) := by
  induction symbols generalizing s with
  | nil => simp
  | cons b symbols ih =>
    rw [List.foldl_cons, ih, contains_union, contains_singleton, Bool.or_assoc]
    simp only [List.mem_cons, Bool.decide_or, eq_comm]

@[simp] theorem contains_ofList (symbols : List α) (a : α) :
    (ofList symbols).contains a = decide (a ∈ symbols) := by
  rw [ofList, contains_foldl_union, contains_empty, Bool.false_or]

theorem mem_toList {s : SymbolSet α} {a : α} : a ∈ s.toList ↔ s.contains a = true := by
  simp [toList, complete]

@[simp] theorem toList_empty : (empty : SymbolSet α).toList = [] := by
  simp [toList]

theorem isEmpty_iff {s : SymbolSet α} : s.isEmpty = true ↔ s = empty := by
  simp [isEmpty, empty, SymbolSet.ext_iff]

end SymbolSet

end ShaderComposition
