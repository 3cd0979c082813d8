import InstallerSetup.Yaml.Tree

/-!
# Equality of trees and the tags in them

Equality of trees in every detail can be decided (`Tree.equals_iff`). A collection holds no tag if
and only if none of its parts does.
-/

namespace InstallerSetup.Yaml.Tree

mutual

def equals : Tree → Tree → Bool
  | .null, .null => true
  | .bool a, .bool b => a == b
  | .int a, .int b => a == b
  | .float a, .float b => decide (a = b)
  | .string a, .string b => a == b
  | .sequence as, .sequence bs => equalItems as bs
  | .mapping as, .mapping bs => equalEntries as bs
  | .tagged s a, .tagged t b => s == t && equals a b
  | _, _ => false

def equalItems : List Tree → List Tree → Bool
  | [], [] => true
  | a :: as, b :: bs => equals a b && equalItems as bs
  | _, _ => false

def equalEntries : List (Tree × Tree) → List (Tree × Tree) → Bool
  | [], [] => true
  | (k, a) :: as, (l, b) :: bs => equals k l && equals a b && equalEntries as bs
  | _, _ => false

end

mutual

theorem equals_iff : (a b : Tree) → (equals a b = true ↔ a = b)
  | .null, b => by cases b <;> simp [equals]
  | .bool _, b => by cases b <;> simp [equals]
  | .int _, b => by cases b <;> simp [equals]
  | .float _, b => by cases b <;> simp [equals]
  | .string _, b => by cases b <;> simp [equals]
  | .sequence as, b => by cases b <;> simp [equals, equalItems_iff as]
  | .mapping as, b => by cases b <;> simp [equals, equalEntries_iff as]
  | .tagged _ a, b => by cases b <;> simp [equals, equals_iff a]

theorem equalItems_iff : (as bs : List Tree) → (equalItems as bs = true ↔ as = bs)
  | [], bs => by cases bs <;> simp [equalItems]
  | a :: as, bs => by cases bs <;> simp [equalItems, equals_iff a, equalItems_iff as]

theorem equalEntries_iff :
    (as bs : List (Tree × Tree)) → (equalEntries as bs = true ↔ as = bs)
  | [], bs => by cases bs <;> simp [equalEntries]
  | (k, a) :: as, bs => by
      cases bs <;>
        simp [equalEntries, equals_iff k, equals_iff a, equalEntries_iff as, Prod.ext_iff,
          and_assoc]

end

instance : DecidableEq Tree := fun a b => decidable_of_iff _ (equals_iff a b)

theorem itemsHaveTag_eq_false {items : List Tree} :
    itemsHaveTag items = false ↔ ∀ item ∈ items, item.hasTag = false := by
  induction items with
  | nil => simp [itemsHaveTag]
  | cons item rest ih => simp [itemsHaveTag, ih]

theorem entriesHaveTag_eq_false {entries : List (Tree × Tree)} :
    entriesHaveTag entries = false ↔
      ∀ entry ∈ entries, entry.1.hasTag = false ∧ entry.2.hasTag = false := by
  induction entries with
  | nil => simp [entriesHaveTag]
  | cons entry rest ih => simp [entriesHaveTag, ih]

end InstallerSetup.Yaml.Tree
