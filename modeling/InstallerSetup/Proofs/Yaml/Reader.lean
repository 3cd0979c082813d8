import InstallerSetup.Proofs.Paired
import InstallerSetup.Proofs.Yaml.Spelling
import InstallerSetup.Yaml.Tree.Reader
import InstallerSetup.Yaml.Tree.Writer

/-!
# What reading a tree gives

The entries of a mapping that is read come from its nodes one by one, and no key comes twice
(`Tree.readEntries_eq_ok`). So in a tree that has been read no mapping at any depth holds a key
twice (`Tree.wellKeyed_of_ofText?`).
-/

namespace InstallerSetup.Yaml

namespace Document

variable (d : Document)

def resolved : Node → Node
  | .reference _ anchor => d.target anchor
  | node => node

/-- Whether a node spells a text, in whatever style. -/
def isSpelled (text : String) (node : Node) : Bool :=
  match d.resolved node with
  | .scalar _ spelled _ => spelled == text
  | _ => false

def nodesUnder (key : String) (node : Node) : List Node :=
  match d.resolved node with
  | .mapping _ entries => (entries.filter fun entry => d.isSpelled key entry.1).map Prod.snd
  | _ => []

def plainText? (node : Node) : Option String :=
  match d.resolved node with
  | .scalar head text true => if head.tag.isNone then some text else none
  | _ => none

theorem isSpelled_withoutTag {text : String} {node : Node}
    (spelled : d.isSpelled text node = true) : d.isSpelled text (Tree.withoutTag node) = true := by
  unfold isSpelled resolved at spelled ⊢
  cases node with
  | scalar | reference => exact spelled
  | _ => cases spelled

end Document

namespace Tree

/-- The keys of a mapping are all different. -/
def KeysApart (entries : List (Tree × Tree)) : Prop :=
  entries.Pairwise fun earlier later => earlier.1.same later.1 = false

/-- No mapping in a tree holds a key twice, unless it stands within a key. -/
inductive WellKeyed : Tree → Prop where
  | null : WellKeyed .null
  | bool (value : Bool) : WellKeyed (.bool value)
  | int (value : Int) : WellKeyed (.int value)
  | float (value : Decimal.Binary64) : WellKeyed (.float value)
  | string (value : String) : WellKeyed (.string value)
  | sequence {items : List Tree} (each : ∀ item ∈ items, WellKeyed item) :
      WellKeyed (.sequence items)
  | mapping {entries : List (Tree × Tree)} (apart : KeysApart entries)
      (each : ∀ entry ∈ entries, WellKeyed entry.2) : WellKeyed (.mapping entries)
  | tagged {tag : String} {value : Tree} (inside : WellKeyed value) : WellKeyed (.tagged tag value)

namespace WellKeyed

theorem untagged {tree : Tree} (keyed : WellKeyed tree) : WellKeyed tree.untagged := by
  induction keyed with
  | tagged _ ih => exact ih
  | null => exact .null
  | bool value => exact .bool value
  | int value => exact .int value
  | float value => exact .float value
  | string value => exact .string value
  | sequence each _ => exact .sequence each
  | mapping apart each _ => exact .mapping apart each

/-- The mapping under some tags. -/
theorem of_untagged {tree : Tree} (keyed : WellKeyed tree) {entries : List (Tree × Tree)}
    (shape : tree.untagged = .mapping entries) :
    KeysApart entries ∧ ∀ entry ∈ entries, WellKeyed entry.2 := by
  have inside := keyed.untagged
  rw [shape] at inside
  cases inside with
  | mapping apart each => exact ⟨apart, each⟩

theorem withTag {tree : Tree} (keyed : WellKeyed tree) (tag : Option Tag) :
    WellKeyed (tree.withTag tag) := by
  unfold Tree.withTag
  split
  · exact keyed.tagged
  · exact keyed

end WellKeyed

theorem untagged_withTag (tag : Option Tag) (tree : Tree) :
    (withTag tag tree).untagged = tree.untagged := by
  unfold withTag
  split <;> rfl

/-! ## Scalars -/

theorem wellKeyed_of_meaning {text : String} {value : Tree}
    (means : Plain.meaning text = .tree value) : WellKeyed value := by
  cases Plain.means_of_meaning means with
  | null => exact .null
  | bool => exact .bool _
  | int => exact .int _
  | float => exact .float _
  | string => exact .string _

theorem wellKeyed_of_ofScalar {tag : Option Tag} {text : String} {plain : Bool} {tree : Tree}
    (read : ofScalar tag text plain = .ok tree) : WellKeyed tree := by
  have written : ∀ value, ofScalar none text plain = .ok value → WellKeyed value := by
    intro value done
    simp only [ofScalar] at done
    split at done
    · split at done
      · next means =>
          cases done
          exact wellKeyed_of_meaning means
      · cases done
    · cases done
      exact .string text
  unfold ofScalar at read
  simp only at read
  cases tag with
  | none => exact written tree read
  | some tag =>
      cases tag with
      | application name =>
          simp only at read
          split at read
          · next value done =>
              cases read
              exact (written value done).tagged
          · cases read
      | bool =>
          simp only at read
          split at read
          · cases read
            exact .bool _
          · cases read
      | int =>
          simp only at read
          split at read
          · split at read
            · cases read
              exact .int _
            · cases read
          · cases read
      | float =>
          simp only at read
          split at read
          · cases read
            exact .float _
          · cases read
      | null =>
          simp only at read
          split at read
          · cases read
            exact .null
          · cases read
      | other =>
          cases read
          exact .string text

/-- A text that is not misread without quotes is read under every tag that leaves it readable. -/
theorem untagged_of_ofScalar {tag : Option Tag} {text : String} {plain : Bool} {tree : Tree}
    (clear : ScalarText.isMisread text = false) (read : ofScalar tag text plain = .ok tree) :
    tree.untagged = .string text := by
  unfold ScalarText.isMisread at clear
  split at clear
  · next same means =>
      cases Plain.means_of_meaning means with
      | string noNull noBool noInt noFloat =>
          unfold ofScalar at read
          simp only [means, ite_self, noNull, noBool, noInt, noFloat clear] at read
          rcases tag with _ | _ | _ | _ | _ | _ | _ <;> cases read <;> rfl
  · cases clear

/-! ## Collections -/

def Reads (read : Path → Node → Reading Tree) (node : Node) (tree : Tree) : Prop :=
  ∃ path before after, read path node before = .ok (tree, after)

theorem bind_eq_ok {α β : Type} {first : Reading α} {next : α → Reading β} {n : Nat}
    {result : β × Nat} (done : (first >>= next) n = .ok result) :
    ∃ value m, first n = .ok (value, m) ∧ next value m = .ok result := by
  change (first n >>= fun pair => next pair.1 pair.2) = .ok result at done
  cases ran : first n with
  | error error =>
      rw [ran] at done
      cases done
  | ok pair =>
      rw [ran] at done
      exact ⟨pair.1, pair.2, rfl, done⟩

variable {read : Path → Node → Reading Tree}

/-- The entries that are read follow those read before, and no key comes twice. -/
theorem readEntries_eq_ok {path : Path} {mark : Mark} {nodes : List (Node × Node)}
    {before result : List (Tree × Tree)} {n m : Nat}
    (done : readEntries read path mark nodes before n = .ok (result, m))
    (apart : KeysApart before.reverse) :
    ∃ entries, result = before.reverse ++ entries ∧ KeysApart result ∧
      List.Forall₂ (fun node entry => Reads read node.1 entry.1 ∧ Reads read node.2 entry.2)
        nodes entries := by
  induction nodes generalizing before n with
  | nil =>
      cases done
      exact ⟨[], (List.append_nil _).symm, apart, .nil⟩
  | cons node nodes ih =>
      obtain ⟨key, value⟩ := node
      unfold readEntries at done
      obtain ⟨keyTree, n₁, key_read, done⟩ := bind_eq_ok done
      split at done
      · obtain ⟨_, _, impossible, _⟩ := bind_eq_ok done
        cases impossible
      · next different =>
          obtain ⟨valueTree, n₂, value_read, done⟩ := bind_eq_ok done
          have apart' : KeysApart ((keyTree, valueTree) :: before).reverse := by
            rw [List.reverse_cons]
            refine List.pairwise_append.2 ⟨apart, List.pairwise_singleton _ _, ?_⟩
            intro earlier member later same
            obtain rfl := List.mem_singleton.1 same
            refine Bool.eq_false_iff.2 fun repeated => different ?_
            exact List.any_eq_true.2 ⟨earlier, List.mem_reverse.1 member, repeated⟩
          obtain ⟨entries, rfl, keys, paired⟩ := ih done apart'
          refine ⟨(keyTree, valueTree) :: entries, ?_, keys, ?_⟩
          · rw [List.reverse_cons, List.append_assoc]
            rfl
          · exact .cons ⟨⟨path, n, n₁, key_read⟩, ⟨_, n₁, n₂, value_read⟩⟩ paired

/-- The items that are read follow those read before. -/
theorem readItems_eq_ok {path : Path} {nodes : List Node} {index : Nat}
    {before result : List Tree} {n m : Nat}
    (done : readItems read path nodes index before n = .ok (result, m)) :
    ∃ items, result = before.reverse ++ items ∧ List.Forall₂ (Reads read) nodes items := by
  induction nodes generalizing index before n with
  | nil =>
      cases done
      exact ⟨[], (List.append_nil _).symm, .nil⟩
  | cons node nodes ih =>
      unfold readItems at done
      obtain ⟨item, n₁, item_read, done⟩ := bind_eq_ok done
      obtain ⟨items, rfl, paired⟩ := ih done
      refine ⟨item :: items, ?_, .cons ⟨_, n, n₁, item_read⟩ paired⟩
      rw [List.reverse_cons, List.append_assoc]
      rfl

/-! ## Nodes -/

variable {d : Document}

theorem pure_eq_ok {α : Type} {value : α} {n : Nat} {result : α × Nat}
    (done : (pure value : Reading α) n = .ok result) : result = (value, n) := by
  cases done
  rfl

section

variable {depth : Nat} {head : NodeHead} {tree : Tree}

theorem reads_scalar {text : String} {plain : Bool}
    (reads : Reads (readNode d depth) (.scalar head text plain) tree) :
    ofScalar head.tag text plain = .ok tree := by
  obtain ⟨path, n, m, done⟩ := reads
  unfold readNode at done
  obtain ⟨_, _, same, done⟩ := bind_eq_ok done
  cases pure_eq_ok same
  cases read : ofScalar head.tag text plain with
  | error reason =>
      simp only [read] at done
      cases done
  | ok value =>
      simp only [read] at done
      cases pure_eq_ok done
      rfl

theorem reads_sequence {nodes : List Node}
    (reads : Reads (readNode d depth) (.sequence head nodes) tree) :
    ∃ less items, depth = less + 1 ∧ tree = withTag head.tag (.sequence items) ∧
      List.Forall₂ (Reads (readNode d less)) nodes items := by
  obtain ⟨path, n, m, done⟩ := reads
  unfold readNode at done
  obtain ⟨_, _, same, done⟩ := bind_eq_ok done
  cases pure_eq_ok same
  cases depth with
  | zero => cases done
  | succ less =>
      obtain ⟨items, n₁, items_read, done⟩ := bind_eq_ok done
      cases pure_eq_ok done
      obtain ⟨_, rfl, paired⟩ := readItems_eq_ok items_read
      exact ⟨less, items, rfl, rfl, paired⟩

theorem reads_mapping {nodes : List (Node × Node)}
    (reads : Reads (readNode d depth) (.mapping head nodes) tree) :
    ∃ less entries, depth = less + 1 ∧ tree = withTag head.tag (.mapping entries) ∧
      KeysApart entries ∧
      List.Forall₂ (fun node entry => Reads (readNode d less) node.1 entry.1 ∧
          Reads (readNode d less) node.2 entry.2)
        (if isKept head.tag then withoutKeyTags nodes else nodes) entries := by
  obtain ⟨path, n, m, done⟩ := reads
  unfold readNode at done
  obtain ⟨_, _, same, done⟩ := bind_eq_ok done
  cases pure_eq_ok same
  cases depth with
  | zero => cases done
  | succ less =>
      obtain ⟨entries, n₁, entries_read, done⟩ := bind_eq_ok done
      cases pure_eq_ok done
      obtain ⟨_, rfl, apart, paired⟩ := readEntries_eq_ok entries_read .nil
      exact ⟨less, entries, rfl, rfl, apart, paired⟩

/-- An alias is read as the node that it stands for, which is no alias itself. -/
theorem reads_reference {mark : Mark} {anchor : Nat}
    (reads : Reads (readNode d depth) (.reference mark anchor) tree) :
    Reads (readNode d depth) (d.target anchor) tree ∧
      ∀ mark other, d.target anchor ≠ .reference mark other := by
  obtain ⟨path, n, m, done⟩ := reads
  unfold readNode at done
  obtain ⟨target, n₁, followed, done⟩ := bind_eq_ok done
  obtain rfl : d.target anchor = target := by
    unfold Document.follow at followed
    obtain ⟨count, n₂, _, followed⟩ := bind_eq_ok followed
    split at followed
    · obtain ⟨_, _, impossible, _⟩ := bind_eq_ok followed
      cases impossible
    · obtain ⟨_, _, _, followed⟩ := bind_eq_ok followed
      cases pure_eq_ok followed
      rfl
  cases shape : d.target anchor with
  | reference mark' other =>
      rw [shape] at done
      cases done
  | _ =>
      refine ⟨⟨path, n₁, m, ?_⟩, fun _ _ impossible => nomatch impossible⟩
      rw [shape] at done
      unfold readNode
      exact done

theorem reads_resolved {node : Node} (reads : Reads (readNode d depth) node tree) :
    Reads (readNode d depth) (d.resolved node) tree := by
  cases node with
  | reference mark anchor => exact (reads_reference reads).1
  | _ => exact reads

theorem mem_withoutKeyTags {key value : Node} {nodes : List (Node × Node)}
    (listed : (key, value) ∈ nodes) : (withoutTag key, value) ∈ withoutKeyTags nodes := by
  induction nodes with
  | nil => cases listed
  | cons node rest ih =>
      rcases List.mem_cons.1 listed with rfl | later
      · exact List.mem_cons_self
      · exact List.mem_cons_of_mem _ (ih later)

/-- What stands under a key in a document stands there in the mapping that is read. -/
theorem exists_entry_of_nodesUnder {node value : Node} {key : String}
    (clear : ScalarText.isMisread key = false) (listed : value ∈ d.nodesUnder key node)
    (reads : Reads (readNode d depth) node tree) :
    ∃ less entries keyTree valueTree, tree.untagged = .mapping entries ∧
      (keyTree, valueTree) ∈ entries ∧ keyTree.untagged = .string key ∧
      Reads (readNode d less) value valueTree := by
  have found := reads_resolved reads
  unfold Document.nodesUnder at listed
  split at listed
  · next head nodes shape =>
      rw [shape] at found
      obtain ⟨⟨keyNode, valueNode⟩, chosen, rfl⟩ := List.mem_map.1 listed
      obtain ⟨member, spelled⟩ := List.mem_filter.1 chosen
      obtain ⟨less, entries, rfl, rfl, _, paired⟩ := reads_mapping found
      -- a mapping whose tag is kept has its keys read without their tags
      obtain ⟨keyNode', member', spelled'⟩ : ∃ keyNode',
          (keyNode', valueNode) ∈ (if isKept head.tag then withoutKeyTags nodes else nodes) ∧
            d.isSpelled key keyNode' = true := by
        split
        · exact ⟨_, mem_withoutKeyTags member, d.isSpelled_withoutTag spelled⟩
        · exact ⟨_, member, spelled⟩
      obtain ⟨⟨keyTree, valueTree⟩, held, key_reads, value_reads⟩ := exists_partner paired member'
      refine ⟨less, entries, keyTree, valueTree, ?_, held, ?_, value_reads⟩
      · exact untagged_withTag _ _
      · have key_read := reads_resolved key_reads
        unfold Document.isSpelled at spelled'
        split at spelled'
        · next shape' =>
            rw [shape', eq_of_beq spelled'] at key_read
            exact untagged_of_ofScalar clear (reads_scalar key_read)
        · cases spelled'
  · cases listed

/-- A scalar without quotes and tag is read as what it means. -/
theorem meaning_of_plainText? {node : Node} {text : String}
    (spelled : d.plainText? node = some text) (reads : Reads (readNode d depth) node tree) :
    Plain.meaning text = .tree tree := by
  have read := reads_resolved reads
  unfold Document.plainText? at spelled
  split at spelled
  · next head same shape =>
      obtain ⟨bare, same⟩ := Option.ite_none_right_eq_some.1 spelled
      cases same
      rw [shape] at read
      have meant := reads_scalar read
      rw [Option.isNone_iff_eq_none.1 bare] at meant
      unfold ofScalar at meant
      simp only [if_true] at meant
      split at meant
      · next means =>
          cases meant
          exact means
      · cases meant
  · cases spelled

/-- Whatever is read from a node holds no key twice. -/
theorem wellKeyed_of_reads {node : Node} (reads : Reads (readNode d depth) node tree) :
    WellKeyed tree := by
  induction depth using Nat.strongRecOn generalizing node tree with
  | ind depth ih =>
      have direct : ∀ target, (∀ mark anchor, target ≠ .reference mark anchor) →
          Reads (readNode d depth) target tree → WellKeyed tree := by
        intro target noAlias found
        cases target with
        | scalar head text plain => exact wellKeyed_of_ofScalar (reads_scalar found)
        | sequence head nodes =>
            obtain ⟨less, items, rfl, rfl, paired⟩ := reads_sequence found
            refine (WellKeyed.sequence fun item member => ?_).withTag _
            obtain ⟨node, _, inside⟩ := exists_partner_of_right paired member
            exact ih less (Nat.lt_succ_self less) inside
        | mapping head nodes =>
            obtain ⟨less, entries, rfl, rfl, apart, paired⟩ := reads_mapping found
            refine (WellKeyed.mapping apart fun entry member => ?_).withTag _
            obtain ⟨node, _, _, inside⟩ := exists_partner_of_right paired member
            exact ih less (Nat.lt_succ_self less) inside
        | reference mark anchor => exact absurd rfl (noAlias mark anchor)
        | void mark =>
            obtain ⟨path, n, m, done⟩ := found
            unfold readNode at done
            cases done
            exact .null
        | cut =>
            obtain ⟨path, n, m, done⟩ := found
            unfold readNode at done
            cases done
      cases node with
      | reference mark anchor =>
          obtain ⟨found, noAlias⟩ := reads_reference reads
          exact direct _ noAlias found
      | _ => exact direct _ (by simp) reads

end

/-- The tree of a text is read from the root of its document. -/
theorem reads_of_ofText? {text : String} {tree : Tree} (read : ofText? text = .ok tree) :
    Reads (readNode (Document.ofText text) depthLimit) (Document.ofText text).root tree := by
  unfold ofText? Document.finish at read
  cases ran : readNode (Document.ofText text) depthLimit none (Document.ofText text).root 0 with
  | error error =>
      simp only [ran] at read
      cases read
  | ok pair =>
      obtain ⟨value, count⟩ := pair
      simp only [ran, bind, Except.bind] at read
      split at read
      · cases read
      · split at read
        · cases read
        · cases read
          exact ⟨none, 0, count, ran⟩

/-- In a tree that is read from a text no mapping holds a key twice. -/
theorem wellKeyed_of_ofText? {text : String} {tree : Tree} (read : ofText? text = .ok tree) :
    WellKeyed tree :=
  wellKeyed_of_reads (reads_of_ofText? read)

end Tree

end InstallerSetup.Yaml
