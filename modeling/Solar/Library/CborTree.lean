/-
This file nests the CBOR data items: arrays of them and maps, whose keys and values
stand in turn. The writer counts what follows in every head, the reader takes as
many items as a head says, and every tree is read back from what is written of it.
-/

import Solar.Library.Cbor

namespace Solar.Cbor

open List Option

inductive DataTree
  | leaf (item : Item)
  | array (elements : List DataTree)
  | map (content : List DataTree)

namespace DataTree

mutual

def write : DataTree → Bytes
  | .leaf item => Cbor.write item
  | .array elements => head 4 elements.length ++ writeAll elements
  | .map content => head 5 (content.length / 2) ++ writeAll content

def writeAll : List DataTree → Bytes
  | [] => []
  | tree :: rest => write tree ++ writeAll rest

end

mutual

/-- The counts fit the 64-bit arguments of the heads, and a map has a value for each key. -/
def Fits : DataTree → Prop
  | .leaf item => item.Fits
  | .array elements => elements.length < 2 ^ 64 ∧ FitsAll elements
  | .map content => content.length % 2 = 0 ∧ content.length / 2 < 2 ^ 64 ∧ FitsAll content

def FitsAll : List DataTree → Prop
  | [] => True
  | tree :: rest => Fits tree ∧ FitsAll rest

end

mutual

/-- How many steps the reader takes. -/
def steps : DataTree → Nat
  | .leaf _ => 1
  | .array elements => 1 + stepsAll elements
  | .map content => 1 + stepsAll content

def stepsAll : List DataTree → Nat
  | [] => 0
  | tree :: rest => 1 + steps tree + stepsAll rest

end

mutual

/-- Read one tree. The fuel bounds the steps. -/
def read : Nat → Bytes → Option (DataTree × Bytes)
  | 0, _ => none
  | fuel + 1, bytes => do
    let (found, rest) ← readHead bytes
    match found.major with
    | 4 => (readAll fuel found.argument rest).map fun (elements, rest) => (.array elements, rest)
    | 5 => (readAll fuel (2 * found.argument) rest).map fun (content, rest) => (.map content, rest)
    | _ => (Cbor.read bytes).map fun (item, rest) => (.leaf item, rest)

def readAll : Nat → Nat → Bytes → Option (List DataTree × Bytes)
  | _, 0, bytes => some ([], bytes)
  | 0, _ + 1, _ => none
  | fuel + 1, count + 1, bytes => do
    let (tree, rest) ← read fuel bytes
    let (trees, rest) ← readAll fuel count rest
    some (tree :: trees, rest)

end

/-- All of the bytes are one tree. -/
def load (bytes : Bytes) : Option DataTree :=
  match read (2 * bytes.length + 1) bytes with
  | some (tree, []) => some tree
  | _ => none

theorem writeAll_append (first second : List DataTree) :
    writeAll (first ++ second) = writeAll first ++ writeAll second := by
  induction first with
  | nil => rfl
  | cons tree rest ih => rw [cons_append, writeAll, writeAll, ih, append_assoc]

theorem flatten_map_write (trees : List DataTree) : (trees.map write).flatten = writeAll trees := by
  induction trees with
  | nil => rfl
  | cons tree rest ih => rw [map_cons, flatten_cons, ih, writeAll]

theorem fitsAll_iff {trees : List DataTree} : FitsAll trees ↔ ∀ tree ∈ trees, tree.Fits := by
  induction trees with
  | nil => exact iff_of_true trivial fun _ listed => absurd listed not_mem_nil
  | cons tree rest ih => rw [FitsAll, ih, forall_mem_cons]

/-- The head of an item that is no array and no map. -/
theorem readHead_leaf {item : Item} (fits : item.Fits) {rest : Bytes} :
    ∃ major info argument after,
      readHead (Cbor.write item ++ rest) = some (⟨major, info, argument⟩, after) ∧
        major ≠ 4 ∧ major ≠ 5 := by
  cases item with
  | unsigned value =>
    obtain ⟨info, found⟩ := readHead_head 0 (by decide) fits rest
    exact ⟨_, _, _, _, found, by decide, by decide⟩
  | negative value =>
    obtain ⟨info, found⟩ := readHead_head 1 (by decide) fits rest
    exact ⟨_, _, _, _, found, by decide, by decide⟩
  | bytes content =>
    obtain ⟨info, found⟩ := readHead_head 2 (by decide) fits (content ++ rest)
    exact ⟨_, _, _, _, (congrArg readHead (append_assoc ..)).trans found, by decide, by decide⟩
  | text content =>
    obtain ⟨info, found⟩ := readHead_head 3 (by decide) fits (content ++ rest)
    exact ⟨_, _, _, _, (congrArg readHead (append_assoc ..)).trans found, by decide, by decide⟩
  | boolean value =>
    have small : (if value then 21 else 20) < 24 := by cases value <;> decide
    exact ⟨_, _, _, _, readHead_short (show 7 < 8 by decide) small rest, by decide, by decide⟩
  | half bits =>
    exact ⟨_, _, _, _, readHead_long 7 25 (by decide) (by decide) (by decide) rfl
      (show bits.toNat < 256 ^ 2 from bits.isLt) rest, by decide, by decide⟩
  | single bits =>
    exact ⟨_, _, _, _, readHead_long 7 26 (by decide) (by decide) (by decide) rfl
      (show bits.toNat < 256 ^ 4 from bits.isLt) rest, by decide, by decide⟩
  | double bits =>
    exact ⟨_, _, _, _, readHead_long 7 27 (by decide) (by decide) (by decide) rfl
      (show bits.toNat < 256 ^ 8 from bits.isLt) rest, by decide, by decide⟩
  | other content => exact absurd fits id

mutual

/-- Every tree is read back. -/
theorem read_write : ∀ (tree : DataTree) (fuel : Nat) (rest : Bytes), tree.Fits →
    tree.steps ≤ fuel → read fuel (tree.write ++ rest) = some (tree, rest)
  | .leaf item, fuel, rest, fits, enough => by
    obtain ⟨fuel, rfl⟩ : ∃ less, fuel = less + 1 := ⟨fuel - 1, by rw [steps] at enough; omega⟩
    obtain ⟨major, info, argument, after, head, notArray, notMap⟩ := readHead_leaf fits
    rw [write, read, head]
    simp [Cbor.read_write fits]
  | .array elements, fuel, rest, fits, enough => by
    obtain ⟨fuel, rfl⟩ : ∃ less, fuel = less + 1 := ⟨fuel - 1, by rw [steps] at enough; omega⟩
    obtain ⟨info, found⟩ := readHead_head 4 (by decide) fits.1 (writeAll elements ++ rest)
    have later := readAll_writeAll elements fuel rest fits.2 (by rw [steps] at enough; omega)
    rw [write, append_assoc, read, found]
    simp only [bind_eq_bind, bind_some, later]
    rfl
  | .map content, fuel, rest, fits, enough => by
    obtain ⟨fuel, rfl⟩ : ∃ less, fuel = less + 1 := ⟨fuel - 1, by rw [steps] at enough; omega⟩
    obtain ⟨info, found⟩ := readHead_head 5 (by decide) fits.2.1 (writeAll content ++ rest)
    have later := readAll_writeAll content fuel rest fits.2.2 (by rw [steps] at enough; omega)
    have pairs : 2 * (content.length / 2) = content.length := by
      have even := fits.1
      omega
    rw [write, append_assoc, read, found]
    simp only [bind_eq_bind, bind_some, pairs, later]
    rfl

theorem readAll_writeAll : ∀ (trees : List DataTree) (fuel : Nat) (rest : Bytes), FitsAll trees →
    stepsAll trees ≤ fuel →
    readAll fuel trees.length (writeAll trees ++ rest) = some (trees, rest)
  | [], fuel, rest, _, _ => by
    cases fuel <;> rfl
  | tree :: trees, fuel, rest, fits, enough => by
    obtain ⟨fuel, rfl⟩ : ∃ less, fuel = less + 1 := ⟨fuel - 1, by rw [stepsAll] at enough; omega⟩
    have first := read_write tree fuel (writeAll trees ++ rest) fits.1
      (by rw [stepsAll] at enough; omega)
    have later := readAll_writeAll trees fuel rest fits.2 (by rw [stepsAll] at enough; omega)
    rw [writeAll, append_assoc, length_cons, readAll, first]
    simp [later]

end

theorem length_head_pos (major argument : Nat) : 0 < (head major argument).length := by
  unfold head
  split_ifs <;> exact Nat.zero_lt_succ _

theorem length_write_item_pos {item : Item} (fits : item.Fits) : 0 < (Cbor.write item).length := by
  cases item with
  | unsigned value => exact length_head_pos 0 value
  | negative value => exact length_head_pos 1 value
  | bytes content =>
    exact Nat.lt_of_lt_of_le (length_head_pos 2 content.length)
      (Nat.le_trans (Nat.le_add_right _ _) (Nat.le_of_eq (length_append ..).symm))
  | text content =>
    exact Nat.lt_of_lt_of_le (length_head_pos 3 content.length)
      (Nat.le_trans (Nat.le_add_right _ _) (Nat.le_of_eq (length_append ..).symm))
  | other content => exact absurd fits id
  | _ => exact Nat.zero_lt_succ _

mutual

theorem steps_lt : ∀ tree : DataTree, tree.Fits → tree.steps < 2 * tree.write.length
  | .leaf item, fits => by
    have positive := length_write_item_pos fits
    rw [steps, write]
    omega
  | .array elements, fits => by
    have positive := length_head_pos 4 elements.length
    have later := stepsAll_le elements fits.2
    rw [steps, write, length_append]
    omega
  | .map content, fits => by
    have positive := length_head_pos 5 (content.length / 2)
    have later := stepsAll_le content fits.2.2
    rw [steps, write, length_append]
    omega

theorem stepsAll_le : ∀ trees : List DataTree, FitsAll trees →
    stepsAll trees ≤ 2 * (writeAll trees).length
  | [], _ => Nat.zero_le _
  | tree :: trees, fits => by
    have first := steps_lt tree fits.1
    have later := stepsAll_le trees fits.2
    rw [stepsAll, writeAll, length_append]
    omega

end

theorem load_write {tree : DataTree} (fits : tree.Fits) : load tree.write = some tree := by
  have enough := steps_lt tree fits
  have found := read_write tree (2 * tree.write.length + 1) [] fits (by omega)
  rw [append_nil] at found
  rw [load, found]

end DataTree

end Solar.Cbor
