import ShaderComposition.Glsl.Target

/-!
# Collecting symbols

A set of symbols is determined by what it holds, bit by bit (`SymbolSet.Collects.of_holds`). So a set that
is collected from a list has forgotten only how often and in which order the list names its members, and
what two such sets have in common is what the lists have in common.
-/

namespace ShaderComposition

namespace Vocabulary

variable {α : Type} [DecidableEq α] [Vocabulary α]

theorem position_getElem {i : Nat} (h : i < (all α).length) : position (all α)[i] = i :=
  nodup_all.idxOf_getElem i h

/-- The symbols stand in the vocabulary's order, none of them twice. -/
def InOrder (symbols : List α) : Prop :=
  symbols.Pairwise (position · < position ·)

theorem inOrder_all : InOrder (all α) := by
  refine List.pairwise_iff_getElem.2 fun i j hi hj less => ?_
  rwa [position_getElem hi, position_getElem hj]

end Vocabulary

namespace SymbolSet

open Vocabulary

variable {α : Type} [DecidableEq α] [Vocabulary α] {s : SymbolSet α} {symbols : List α}

/-- The set stands for the members of a list. -/
structure Collects (symbols : List α) (s : SymbolSet α) : Prop where
  /-- A bit is set if it is at the place of a member. -/
  bits : ∀ place, s.bits.getLsbD place = true ↔ ∃ a ∈ symbols, position a = place
  holds : ∀ a, s.contains a = true ↔ a ∈ symbols
  lists : ∀ a, a ∈ s.toList ↔ a ∈ symbols
  ordered : InOrder s.toList
  isEmpty : s.isEmpty = true ↔ symbols = []

/-- Every bit stands for a symbol. -/
theorem getLsbD_bits_iff (s : SymbolSet α) (place : Nat) :
    s.bits.getLsbD place = true ↔ ∃ a, s.contains a = true ∧ position a = place := by
  constructor
  · intro set
    have within := BitVec.lt_of_getLsbD set
    refine ⟨(all α)[place], ?_, position_getElem within⟩
    rwa [contains, position_getElem within]
  · rintro ⟨a, member, rfl⟩
    exact member

theorem isEmpty_iff_contains (s : SymbolSet α) :
    s.isEmpty = true ↔ ∀ a, s.contains a = false := by
  rw [isEmpty_iff]
  constructor
  · rintro rfl a
    exact contains_empty a
  · intro none
    refine SymbolSet.ext (BitVec.eq_of_getLsbD_eq fun place _ => ?_)
    have unset : s.bits.getLsbD place = false := by
      refine Bool.eq_false_iff.2 fun set => ?_
      obtain ⟨a, member, -⟩ := (s.getLsbD_bits_iff place).1 set
      rw [none a] at member
      cases member
    rw [unset]
    exact BitVec.getLsbD_zero.symm

theorem inOrder_toList (s : SymbolSet α) : InOrder s.toList :=
  inOrder_all.filter _

/-- What a set holds decides what it lists, in which order, and whether it is empty. -/
theorem Collects.of_holds (holds : ∀ a, s.contains a = true ↔ a ∈ symbols) : Collects symbols s where
  bits place := by simp only [getLsbD_bits_iff, holds]
  holds := holds
  lists a := by rw [mem_toList, holds]
  ordered := s.inOrder_toList
  isEmpty := by
    simp only [isEmpty_iff_contains, List.eq_nil_iff_forall_not_mem, ← holds, Bool.not_eq_true]

theorem collects_ofList (symbols : List α) : Collects symbols (ofList symbols) :=
  .of_holds fun a => by rw [contains_ofList, decide_eq_true_iff]

theorem collects_inter (l m : List α) :
    Collects (l.filter (· ∈ m)) ((ofList l).inter (ofList m)) :=
  .of_holds fun a => by simp

end SymbolSet

/--
The set of a list of dialects stands for the members of the list: it holds them and no others, lists them
in order and once each, and is empty only where the list is. What the sets of two lists have in common
stands for the members of both. It is the same with stages.
-/
theorem dialects_and_stages_collected :
    (∀ l m : List Dialect, (SymbolSet.ofList l).Collects l ∧
      ((SymbolSet.ofList l).inter (SymbolSet.ofList m)).Collects (l.filter (· ∈ m))) ∧
    ∀ l m : List Stage, (SymbolSet.ofList l).Collects l ∧
      ((SymbolSet.ofList l).inter (SymbolSet.ofList m)).Collects (l.filter (· ∈ m)) :=
  ⟨fun l m => ⟨SymbolSet.collects_ofList l, SymbolSet.collects_inter l m⟩,
    fun l m => ⟨SymbolSet.collects_ofList l, SymbolSet.collects_inter l m⟩⟩

/-- A repeated member is listed once, and the oldest dialect first. -/
example : (SymbolSet.ofList [Dialect.glsl420, .glsl120, .glsl420]).toList = [.glsl120, .glsl420] := by
  decide

end ShaderComposition
