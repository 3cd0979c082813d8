import InstallerSetup.Config.Basic
import InstallerSetup.Proofs.Config.Record

/-!
# The sections of a configuration

An attribute that codes a value (`Attribute.Codes`) restores what it writes and tells values apart.
All attributes of the sections are of this kind and independent of each other
(`Attribute.IsMember`), so a section whose unknown keys are clean reads back as itself
(`Record.Flat.ofTree?_toTree`), and two such sections that are written alike are equal.
-/

namespace InstallerSetup.Config

open InstallerSetup.Yaml (Tree Mismatch)

namespace Attribute

variable {σ β : Type}

def Sets (a : Attribute σ) (set : σ → β → σ) : Prop :=
  ∀ tree update, a.read tree = .ok update → ∃ value, update = fun s => set s value

/-- What an attribute reads that stores a value comes from that value. -/
theorem read_eq_ok {a : Attribute σ} {set : σ → β → σ} {value : Tree → Except Mismatch β}
    (reads : ∀ tree, a.read tree = (do let v ← value tree; return fun s => set s v)) {tree : Tree}
    {update : σ → σ} (read : a.read tree = .ok update) :
    ∃ v, value tree = .ok v ∧ update = fun s => set s v := by
  rw [reads] at read
  cases result : value tree with
  | error reason =>
      rw [result] at read
      cases read
  | ok v =>
      rw [result] at read
      cases read
      exact ⟨v, rfl, rfl⟩

theorem sets_of_read {a : Attribute σ} {set : σ → β → σ} {value : Tree → Except Mismatch β}
    (reads : ∀ tree, a.read tree = (do let v ← value tree; return fun s => set s v)) :
    a.Sets set := by
  intro tree update read
  obtain ⟨v, _, stored⟩ := read_eq_ok reads read
  exact ⟨v, stored⟩

theorem record_sets {τ : Type} [Record τ] (key : String) (get : σ → τ) (set : σ → τ → σ) :
    (record key get set).Sets set :=
  sets_of_read fun _ => rfl

theorem Sets.independent [Record σ] {a : Attribute σ} {set : σ → β → σ} (sets : a.Sets set)
    (extra_set : ∀ s v, Record.extra (set s v) = Record.extra s)
    (write_withExtra : ∀ (s : σ) (e : Extra), a.write (Record.withExtra s e) = a.write s)
    (absent_or_required : a.required = false ∧ a.write Record.fresh = none ∨
      ∀ s, (a.write s).isSome = true)
    (others : ∀ b ∈ (Record.attributes : List (Attribute σ)), b.key ≠ a.key → ∀ s v,
      b.write (set s v) = b.write s) :
    a.Independent where
  leaves_extra tree update read s := by
    obtain ⟨v, rfl⟩ := sets tree update read
    exact extra_set s v
  leaves_others b member different tree update read s := by
    obtain ⟨v, rfl⟩ := sets tree update read
    exact others b member different s v
  write_withExtra := write_withExtra
  absent_or_required := absent_or_required

/-! ## Attributes that code one value -/

/-- An attribute that codes the value that `get` finds and `set` stores; absent values are equal. -/
structure Codes (a : Attribute σ) (get : σ → β) (set : σ → β → σ) (encode : β → Option Tree)
    (decode : Tree → Except Mismatch β) : Prop where
  get_set : ∀ s v, get (set s v) = v
  write_eq : ∀ s, a.write s = encode (get s)
  read_eq : ∀ tree, a.read tree = (do let v ← decode tree; return fun s => set s v)
  decode_encode : ∀ v tree, encode v = some tree → decode tree = .ok v
  hasTag_encode : ∀ v tree, encode v = some tree → tree.hasTag = false
  absent_unique : ∀ v w, encode v = none → encode w = none → v = w

namespace Codes

variable {a : Attribute σ} {get : σ → β} {set : σ → β → σ} {encode : β → Option Tree}
  {decode : Tree → Except Mismatch β}

theorem sets (codes : a.Codes get set encode decode) : a.Sets set := sets_of_read codes.read_eq

theorem restores (codes : a.Codes get set encode decode) (s : σ) : a.Restores s := by
  intro tree written
  rw [codes.write_eq] at written
  refine ⟨fun t => set t (get s), ?_, fun t => ?_⟩
  · rw [codes.read_eq, codes.decode_encode _ _ written]
    rfl
  · rw [codes.write_eq, codes.get_set, written]

theorem hasTag_write (codes : a.Codes get set encode decode) {s : σ} {tree : Tree}
    (written : a.write s = some tree) : tree.hasTag = false :=
  codes.hasTag_encode (get s) tree (codes.write_eq s ▸ written)

theorem injective (codes : a.Codes get set encode decode) {s t : σ} (same : a.write s = a.write t) :
    get s = get t := by
  rw [codes.write_eq, codes.write_eq] at same
  cases written : encode (get t) with
  | none => exact codes.absent_unique _ _ (same.trans written) written
  | some tree =>
      have first := codes.decode_encode _ _ (same.trans written)
      have second := codes.decode_encode _ _ written
      exact Except.ok.inj (first.symm.trans second)

theorem independent [Record σ] (codes : a.Codes get set encode decode)
    (extra_set : ∀ s v, Record.extra (set s v) = Record.extra s)
    (get_withExtra : ∀ (s : σ) (e : Extra), get (Record.withExtra s e) = get s)
    (optional : a.required = false) (absent : encode (get Record.fresh) = none)
    (others : ∀ b ∈ (Record.attributes : List (Attribute σ)), b.key ≠ a.key → ∀ s v,
      b.write (set s v) = b.write s) :
    a.Independent := by
  refine codes.sets.independent extra_set (fun s e => ?_) (.inl ⟨optional, ?_⟩) others
  · rw [codes.write_eq, codes.write_eq, get_withExtra]
  · rw [codes.write_eq, absent]

end Codes

theorem codes_of_option {a : Attribute σ} (get : σ → Option β) (set : σ → Option β → σ)
    (encode : β → Tree) (decode : Tree → Except Mismatch (Option β))
    (get_set : ∀ s v, get (set s v) = v) (write_eq : ∀ s, a.write s = (get s).map encode)
    (read_eq : ∀ tree, a.read tree = (do let v ← decode tree; return fun s => set s v))
    (decode_encode : ∀ v, decode (encode v) = .ok (some v))
    (hasTag_encode : ∀ v, (encode v).hasTag = false) :
    a.Codes get set (Option.map encode) decode where
  get_set := get_set
  write_eq := write_eq
  read_eq := read_eq
  decode_encode v tree written := by
    obtain ⟨value, rfl, rfl⟩ := Option.map_eq_some_iff.1 written
    exact decode_encode value
  hasTag_encode v tree written := by
    obtain ⟨value, rfl, rfl⟩ := Option.map_eq_some_iff.1 written
    exact hasTag_encode value
  absent_unique v w first second := by
    rw [Option.map_eq_none_iff.1 first, Option.map_eq_none_iff.1 second]

def encodeText (v : String) : Option Tree := if v.isEmpty then none else some (.string v)

theorem text_codes {key : String} {get : σ → String} {set : σ → String → σ}
    (get_set : ∀ s v, get (set s v) = v) :
    (text key get set).Codes get set encodeText scalarText where
  get_set := get_set
  write_eq _ := rfl
  read_eq _ := rfl
  decode_encode v tree written := by
    unfold encodeText at written
    split at written <;> cases written
    rfl
  hasTag_encode v tree written := by
    unfold encodeText at written
    split at written <;> cases written
    rfl
  absent_unique v w first second := by
    unfold encodeText at first second
    split at first <;> split at second <;> try contradiction
    next emptyFirst emptySecond =>
      rw [String.isEmpty_iff.1 emptyFirst, String.isEmpty_iff.1 emptySecond]

def encodeFlag (v : Bool) : Option Tree := if v then some (.bool true) else none

def decodeFlag (tree : Tree) : Except Mismatch Bool :=
  match tree.untagged with
  | .bool value => .ok value
  | other => .error (.wrongType (.ofTree other) "a boolean")

theorem flag_codes {key : String} {get : σ → Bool} {set : σ → Bool → σ}
    (get_set : ∀ s v, get (set s v) = v) :
    (flag key get set).Codes get set encodeFlag decodeFlag where
  get_set := get_set
  write_eq _ := rfl
  read_eq tree := by
    unfold flag decodeFlag
    dsimp only
    cases tree.untagged <;> rfl
  decode_encode v tree written := by
    cases v <;> cases written
    rfl
  hasTag_encode v tree written := by
    cases v <;> cases written
    rfl
  absent_unique v w first second := by
    cases v <;> cases w <;> first | rfl | contradiction

def encodeTexts (v : List String) : Option Tree :=
  if v.isEmpty then none else some (.sequence (v.map .string))

def decodeTexts (tree : Tree) : Except Mismatch (List String) :=
  match tree.untagged with
  | .sequence items => items.mapM textOnly
  | .null => .ok []
  | other => .error (.wrongType (.ofTree other) "a sequence")

theorem mapM_textOnly (texts : List String) :
    (texts.map Tree.string).mapM textOnly = .ok texts := by
  induction texts with
  | nil => rfl
  | cons head rest ih =>
      rw [List.map_cons, List.mapM_cons, ih]
      rfl

theorem texts_codes {key : String} {get : σ → List String} {set : σ → List String → σ}
    (get_set : ∀ s v, get (set s v) = v) :
    (texts key get set).Codes get set encodeTexts decodeTexts where
  get_set := get_set
  write_eq _ := rfl
  read_eq tree := by
    unfold texts decodeTexts
    dsimp only
    cases tree.untagged <;> rfl
  decode_encode v tree written := by
    unfold encodeTexts at written
    split at written <;> cases written
    exact mapM_textOnly v
  hasTag_encode v tree written := by
    unfold encodeTexts at written
    split at written <;> cases written
    refine Tree.itemsHaveTag_eq_false.2 fun item member => ?_
    obtain ⟨text, _, rfl⟩ := List.mem_map.1 member
    rfl
  absent_unique v w first second := by
    unfold encodeTexts at first second
    split at first <;> split at second <;> try contradiction
    next emptyFirst emptySecond =>
      rw [List.isEmpty_iff.1 emptyFirst, List.isEmpty_iff.1 emptySecond]

/-! ## Members of a section -/

/-- An attribute that codes some value of the section and does not interfere with another one. -/
structure IsMember [Record σ] (a : Attribute σ) : Prop where
  coded : ∃ (β : Type) (get : σ → β) (set : σ → β → σ) (encode : β → Option Tree)
    (decode : Tree → Except Mismatch β), a.Codes get set encode decode
  independent : a.Independent

variable [Record σ]

theorem Codes.isMember {a : Attribute σ} {get : σ → β} {set : σ → β → σ} {encode : β → Option Tree}
    {decode : Tree → Except Mismatch β} (codes : a.Codes get set encode decode)
    (extra_set : ∀ s v, Record.extra (set s v) = Record.extra s)
    (get_withExtra : ∀ (s : σ) (e : Extra), get (Record.withExtra s e) = get s)
    (optional : a.required = false) (absent : encode (get Record.fresh) = none)
    (others : ∀ b ∈ (Record.attributes : List (Attribute σ)), b.key ≠ a.key → ∀ s v,
      b.write (set s v) = b.write s) :
    a.IsMember :=
  ⟨⟨β, get, set, encode, decode, codes⟩,
    codes.independent extra_set get_withExtra optional absent others⟩

theorem text_isMember {key : String} {get : σ → String} {set : σ → String → σ}
    (get_set : ∀ s v, get (set s v) = v)
    (extra_set : ∀ s v, Record.extra (set s v) = Record.extra s)
    (get_withExtra : ∀ (s : σ) (e : Extra), get (Record.withExtra s e) = get s)
    (absent : get Record.fresh = "")
    (others : ∀ b ∈ (Record.attributes : List (Attribute σ)), b.key ≠ key → ∀ s v,
      b.write (set s v) = b.write s) :
    (text key get set).IsMember :=
  (text_codes get_set).isMember extra_set get_withExtra rfl (by rw [absent]; rfl) others

end Attribute

/-- A section: its attributes are members, and these and the unknown keys make up the section. -/
class Record.Flat (σ : Type) [Record σ] : Prop extends Record.Lawful σ where
  members : ∀ a ∈ (Record.attributes : List (Attribute σ)), a.IsMember
  independent := fun a member => (members a member).independent
  determined : ∀ s t : σ,
    (∀ a ∈ (Record.attributes : List (Attribute σ)), a.write s = a.write t) →
      Record.extra s = Record.extra t → s = t

namespace Record.Flat

variable {σ : Type} [Record σ] [Record.Flat σ]

theorem hasTag_toTree {s : σ} (clean : Clean s) : (toTree s).hasTag = false := by
  refine Record.hasTag_toTree clean fun a member tree written => ?_
  obtain ⟨_, _, _, _, _, codes⟩ := (members a member).coded
  exact codes.hasTag_write written

/-- A section with clean unknown keys reads back as itself. -/
theorem ofTree?_toTree {s : σ} (clean : Clean s) : ofTree? (toTree s) = .ok s := by
  have restores : ∀ a ∈ (attributes : List (Attribute σ)), a.Restores s := by
    intro a member
    obtain ⟨_, _, _, _, _, codes⟩ := (members a member).coded
    exact codes.restores s
  obtain ⟨t, read, extra_eq, write_eq⟩ := Record.ofTree?_toTree clean restores
  rw [read, determined t s write_eq extra_eq]

/-- Sections with clean unknown keys that are written alike are equal. -/
theorem toTree_injective {s t : σ} (clean : Clean s) (clean' : Clean t)
    (same : toTree s = toTree t) : s = t := by
  have read := ofTree?_toTree clean
  rw [same, ofTree?_toTree clean'] at read
  exact (Except.ok.inj read).symm

end Record.Flat

/-! ## The eight sections -/

open Attribute

deriving instance DecidableEq for Global, Aws, Onprem, Proxy, Cert, Sre, Smtp, Orch

theorem scale_codes :
    Attribute.Codes
      { key := "scale"
        required := false
        write := fun s => s.scale.map fun scale => .int scale.nodes
        read := fun tree => do
          let scale ← Scale.ofTree? tree
          return fun s => { s with scale := scale } }
      Global.scale (fun s v => { s with scale := v }) (Option.map fun scale => .int scale.nodes)
      Scale.ofTree? :=
  codes_of_option _ _ _ _ (fun _ _ => rfl) (fun _ => rfl) (fun _ => rfl)
    (fun scale => by cases scale <;> rfl) fun _ => rfl

instance : Record.Flat Global where
  keys_nodup := by decide
  extra_fresh := rfl
  extra_withExtra _ _ := rfl
  members := by
    simp only [Record.attributes, List.forall_mem_cons]
    refine ⟨text_isMember (fun _ _ => rfl) (fun _ _ => rfl) (fun _ _ => rfl) rfl ?_,
      text_isMember (fun _ _ => rfl) (fun _ _ => rfl) (fun _ _ => rfl) rfl ?_,
      text_isMember (fun _ _ => rfl) (fun _ _ => rfl) (fun _ _ => rfl) rfl ?_,
      scale_codes.isMember (fun _ _ => rfl) (fun _ _ => rfl) rfl rfl ?_, nofun⟩
    all_goals
      simp only [Record.attributes, List.forall_mem_cons]
      refine ⟨?_, ?_, ?_, ?_, nofun⟩
    all_goals
      intro different s v
      first | rfl | trivial
  determined s t same extra_eq := by
    simp only [Record.attributes, List.forall_mem_cons] at same
    obtain ⟨name, domain, email, scale, _⟩ := same
    cases s
    cases t
    cases (text_codes fun _ _ => rfl).injective name
    cases (text_codes fun _ _ => rfl).injective domain
    cases (text_codes fun _ _ => rfl).injective email
    cases scale_codes.injective scale
    cases extra_eq
    rfl

instance : Record.Flat Aws where
  keys_nodup := by decide
  extra_fresh := rfl
  extra_withExtra _ _ := rfl
  members := by
    simp only [Record.attributes, List.forall_mem_cons]
    refine ⟨text_isMember (fun _ _ => rfl) (fun _ _ => rfl) (fun _ _ => rfl) rfl ?_,
      text_isMember (fun _ _ => rfl) (fun _ _ => rfl) (fun _ _ => rfl) rfl ?_,
      text_isMember (fun _ _ => rfl) (fun _ _ => rfl) (fun _ _ => rfl) rfl ?_,
      (texts_codes fun _ _ => rfl).isMember (fun _ _ => rfl) (fun _ _ => rfl) rfl rfl ?_,
      text_isMember (fun _ _ => rfl) (fun _ _ => rfl) (fun _ _ => rfl) rfl ?_,
      (flag_codes fun _ _ => rfl).isMember (fun _ _ => rfl) (fun _ _ => rfl) rfl rfl ?_,
      text_isMember (fun _ _ => rfl) (fun _ _ => rfl) (fun _ _ => rfl) rfl ?_, nofun⟩
    all_goals
      simp only [Record.attributes, List.forall_mem_cons]
      refine ⟨?_, ?_, ?_, ?_, ?_, ?_, ?_, nofun⟩
    all_goals
      intro different s v
      first | rfl | exact absurd rfl different
  determined s t same extra_eq := by
    simp only [Record.attributes, List.forall_mem_cons] at same
    obtain ⟨region, tag, registry, hosts, vpc, ttl, dns, _⟩ := same
    cases s
    cases t
    cases (text_codes fun _ _ => rfl).injective region
    cases (text_codes fun _ _ => rfl).injective tag
    cases (text_codes fun _ _ => rfl).injective registry
    cases (texts_codes fun _ _ => rfl).injective hosts
    cases (text_codes fun _ _ => rfl).injective vpc
    cases (flag_codes fun _ _ => rfl).injective ttl
    cases (text_codes fun _ _ => rfl).injective dns
    cases extra_eq
    rfl

instance : Record.Flat Onprem where
  keys_nodup := by decide
  extra_fresh := rfl
  extra_withExtra _ _ := rfl
  members := by
    simp only [Record.attributes, List.forall_mem_cons]
    refine ⟨?_, ?_, ?_, ?_, ?_, nofun⟩
    all_goals
      refine text_isMember (fun _ _ => rfl) (fun _ _ => rfl) (fun _ _ => rfl) rfl ?_
      simp only [Record.attributes, List.forall_mem_cons]
      refine ⟨?_, ?_, ?_, ?_, ?_, nofun⟩
    all_goals
      intro different s v
      first | rfl | exact absurd rfl different
  determined s t same extra_eq := by
    simp only [Record.attributes, List.forall_mem_cons] at same
    obtain ⟨argo, traefik, nginx, username, token, _⟩ := same
    cases s
    cases t
    cases (text_codes fun _ _ => rfl).injective argo
    cases (text_codes fun _ _ => rfl).injective traefik
    cases (text_codes fun _ _ => rfl).injective nginx
    cases (text_codes fun _ _ => rfl).injective username
    cases (text_codes fun _ _ => rfl).injective token
    cases extra_eq
    rfl

instance : Record.Flat Proxy where
  keys_nodup := by decide
  extra_fresh := rfl
  extra_withExtra _ _ := rfl
  members := by
    simp only [Record.attributes, List.forall_mem_cons]
    refine ⟨?_, ?_, ?_, ?_, nofun⟩
    all_goals
      refine text_isMember (fun _ _ => rfl) (fun _ _ => rfl) (fun _ _ => rfl) rfl ?_
      simp only [Record.attributes, List.forall_mem_cons]
      refine ⟨?_, ?_, ?_, ?_, nofun⟩
    all_goals
      intro different s v
      first | rfl | exact absurd rfl different
  determined s t same extra_eq := by
    simp only [Record.attributes, List.forall_mem_cons] at same
    obtain ⟨http, https, socks, direct, _⟩ := same
    cases s
    cases t
    cases (text_codes fun _ _ => rfl).injective http
    cases (text_codes fun _ _ => rfl).injective https
    cases (text_codes fun _ _ => rfl).injective socks
    cases (text_codes fun _ _ => rfl).injective direct
    cases extra_eq
    rfl

instance : Record.Flat Cert where
  keys_nodup := by decide
  extra_fresh := rfl
  extra_withExtra _ _ := rfl
  members := by
    simp only [Record.attributes, List.forall_mem_cons]
    refine ⟨?_, ?_, ?_, nofun⟩
    all_goals
      refine text_isMember (fun _ _ => rfl) (fun _ _ => rfl) (fun _ _ => rfl) rfl ?_
      simp only [Record.attributes, List.forall_mem_cons]
      refine ⟨?_, ?_, ?_, nofun⟩
    all_goals
      intro different s v
      first | rfl | exact absurd rfl different
  determined s t same extra_eq := by
    simp only [Record.attributes, List.forall_mem_cons] at same
    obtain ⟨cert, key, authority, _⟩ := same
    cases s
    cases t
    cases (text_codes fun _ _ => rfl).injective cert
    cases (text_codes fun _ _ => rfl).injective key
    cases (text_codes fun _ _ => rfl).injective authority
    cases extra_eq
    rfl

instance : Record.Flat Sre where
  keys_nodup := by decide
  extra_fresh := rfl
  extra_withExtra _ _ := rfl
  members := by
    simp only [Record.attributes, List.forall_mem_cons]
    refine ⟨?_, ?_, ?_, ?_, nofun⟩
    all_goals
      refine text_isMember (fun _ _ => rfl) (fun _ _ => rfl) (fun _ _ => rfl) rfl ?_
      simp only [Record.attributes, List.forall_mem_cons]
      refine ⟨?_, ?_, ?_, ?_, nofun⟩
    all_goals
      intro different s v
      first | rfl | exact absurd rfl different
  determined s t same extra_eq := by
    simp only [Record.attributes, List.forall_mem_cons] at same
    obtain ⟨username, password, url, secret, _⟩ := same
    cases s
    cases t
    cases (text_codes fun _ _ => rfl).injective username
    cases (text_codes fun _ _ => rfl).injective password
    cases (text_codes fun _ _ => rfl).injective url
    cases (text_codes fun _ _ => rfl).injective secret
    cases extra_eq
    rfl

instance : Record.Flat Smtp where
  keys_nodup := by decide
  extra_fresh := rfl
  extra_withExtra _ _ := rfl
  members := by
    simp only [Record.attributes, List.forall_mem_cons]
    refine ⟨?_, ?_, ?_, ?_, ?_, nofun⟩
    all_goals
      refine text_isMember (fun _ _ => rfl) (fun _ _ => rfl) (fun _ _ => rfl) rfl ?_
      simp only [Record.attributes, List.forall_mem_cons]
      refine ⟨?_, ?_, ?_, ?_, ?_, nofun⟩
    all_goals
      intro different s v
      first | rfl | exact absurd rfl different
  determined s t same extra_eq := by
    simp only [Record.attributes, List.forall_mem_cons] at same
    obtain ⟨username, password, url, port, sender, _⟩ := same
    cases s
    cases t
    cases (text_codes fun _ _ => rfl).injective username
    cases (text_codes fun _ _ => rfl).injective password
    cases (text_codes fun _ _ => rfl).injective url
    cases (text_codes fun _ _ => rfl).injective port
    cases (text_codes fun _ _ => rfl).injective sender
    cases extra_eq
    rfl

instance : Record.Flat Orch where
  keys_nodup := by decide
  extra_fresh := rfl
  extra_withExtra _ _ := rfl
  members := by
    simp only [Record.attributes, List.forall_mem_cons]
    refine ⟨(texts_codes fun _ _ => rfl).isMember (fun _ _ => rfl) (fun _ _ => rfl) rfl rfl ?_,
      text_isMember (fun _ _ => rfl) (fun _ _ => rfl) (fun _ _ => rfl) rfl ?_, nofun⟩
    all_goals
      simp only [Record.attributes, List.forall_mem_cons]
      refine ⟨?_, ?_, nofun⟩
    all_goals
      intro different s v
      first | rfl | exact absurd rfl different
  determined s t same extra_eq := by
    simp only [Record.attributes, List.forall_mem_cons] at same
    obtain ⟨enabled, password, _⟩ := same
    cases s
    cases t
    cases (texts_codes fun _ _ => rfl).injective enabled
    cases (text_codes fun _ _ => rfl).injective password
    cases extra_eq
    rfl

end InstallerSetup.Config
