import InstallerSetup.Proofs.Config.RoundTrip
import InstallerSetup.Proofs.Run.Ending
import InstallerSetup.Proofs.Text.Utf8

/-!
# Saving and loading

Documents are saved to files in memory and loaded from them, any number of times and in any order.
What a load comes to is told by the calls before it: the latest save that got through under the same
components, or else what was there in the beginning. A store that calls have been made on has just
the files that this asks for (`Since`), and that is kept by every call (`Since.perform`).
-/

namespace InstallerSetup

/-! ## Documents that read back -/

/-- A document that was read from a text, or the one that says nothing. -/
def Config.IsDocument (c : Config) : Prop :=
  c = Config.initial ∨ ∃ text, Config.ofText text = .ok c

namespace Config.IsDocument

variable {c : Config}

theorem tidy (document : c.IsDocument) : Tidy c := by
  rcases document with rfl | ⟨text, read⟩
  · exact { tidySections_initial with own := Record.clean_fresh }
  · exact tidy_of_ofText read

theorem version (document : c.IsDocument) : c.version = currentVersion := by
  rcases document with rfl | ⟨text, read⟩
  · rfl
  · exact version_of_ofText read

/-- If the writer's text reads back as its tree, the text of a document reads back as it. -/
theorem ofText_render (document : c.IsDocument)
    (reads_back : (Record.toTree c).hasTag = false →
      Yaml.Tree.ofText? (Record.toTree c).render = .ok (Record.toTree c)) :
    ofText c.render = .ok c :=
  ofText_of_tree (reads_back document.tidy.hasTag_toTree) (migrate_toTree document.version)
    (document.tidy.ofTree?_toTree document.version)

end Config.IsDocument

namespace Run

open Storage (Memory components)

/-! ## Calls -/

inductive Call where
  | save (path : String) (document : Config)
  | load (path : String)

inductive Reply where
  | saved (result : Except Failure Unit)
  | loaded (result : Except Failure Config)

def Call.perform (m : Memory) : Call → Memory × Reply
  | save path document =>
      match (saveConfig m path document).2 with
      | .ok saved => (saved, .saved (.ok ()))
      | .error failure => (m, .saved (.error failure))
  | load path => (m, .loaded (loadConfig path (Storage.read m path)).2)

def performAll (m : Memory) : List Call → Memory × List Reply
  | [] => (m, [])
  | call :: calls =>
      let made := call.perform m
      let others := performAll made.1 calls
      (others.1, made.2 :: others.2)

/-! ## What the calls before tell -/

/-- A save gets through unless its path is closed to writing. -/
def Call.succeeds (m : Memory) : Call → Bool
  | save path _ => !m.isReadOnly path
  | load _ => false

def Call.leaves? (m : Memory) (path : String) : Call → Option Config
  | save other document =>
      if !m.isReadOnly other && components other == components path then some document else none
  | load _ => none

/-- The document of the latest save under a path that got through. -/
def latest? (m : Memory) (path : String) (calls : List Call) : Option Config :=
  calls.reverse.findSome? (Call.leaves? m path)

def document (m : Memory) (path : String) : Except Failure Config :=
  match m.content? path with
  | none => .ok Config.initial
  | some content =>
      match Text.decode? content with
      | .ok text => Config.ofText text
      | .error malformed =>
          .error (.documentUnreadable path ⟨.invalidData, "Invalid UTF-8: " ++ malformed.message⟩)

/-- What a call has to come to after others that were made on a store. -/
def Call.due (m : Memory) (earlier : List Call) : Call → Reply
  | save path _ =>
      .saved (if m.isReadOnly path then
        .error (.unwritable path ⟨.permissionDenied, "Read-only file: " ++ path⟩) else .ok ())
  | load path =>
      .loaded (match latest? m path earlier with
        | some document => .ok document
        | none => document m path)

theorem loadConfig_eq (m : Memory) (path : String) :
    (loadConfig path (Storage.read m path)).2 = document m path := by
  change (loadConfig path (Memory.read m path)).2 = _
  rw [snd_loadConfig]
  unfold document Memory.read
  cases m.content? path with
  | none => rfl
  | some content =>
      simp only
      cases Text.decode? content with
      | error malformed => rfl
      | ok text => rfl

/-! ## A store after some calls -/

/-- A store that some calls have been made on, in terms of the one that they began with. -/
structure Since (m : Memory) (calls : List Call) (now : Memory) : Prop where
  readOnly : now.readOnly = m.readOnly
  writes : now.writes = m.writes + calls.countP (Call.succeeds m)
  content : ∀ path, now.content? path =
    match latest? m path calls with
    | some document => some (Text.encode document.render)
    | none => m.content? path

variable {m now : Memory} {calls : List Call}

theorem Since.nothing (m : Memory) : Since m [] m where
  readOnly := rfl
  writes := rfl
  content _ := rfl

theorem latest?_append (path : String) (calls : List Call) (call : Call) :
    latest? m path (calls ++ [call]) = (call.leaves? m path).or (latest? m path calls) := by
  unfold latest?
  rw [List.reverse_append, List.reverse_singleton, List.singleton_append, List.findSome?_cons]
  cases call.leaves? m path with
  | none => rfl
  | some document => rfl

theorem Since.isReadOnly (since : Since m calls now) (path : String) :
    now.isReadOnly path = m.isReadOnly path := by
  unfold Memory.isReadOnly
  rw [since.readOnly]

/-- A call that leaves no document under any path leaves the store as it is. -/
theorem Since.still (since : Since m calls now) {call : Call} (fails : call.succeeds m = false)
    (nothing : ∀ path, call.leaves? m path = none) : Since m (calls ++ [call]) now where
  readOnly := since.readOnly
  writes := by
    rw [since.writes, List.countP_append, List.countP_singleton, if_neg (Bool.eq_false_iff.1 fails)]
    rfl
  content path := by
    rw [since.content, latest?_append, nothing]
    rfl

theorem perform_save_of_readOnly {path : String} (closed : m.isReadOnly path = true)
    (document : Config) :
    (Call.save path document).perform m =
      (m, .saved (.error (.unwritable path ⟨.permissionDenied, "Read-only file: " ++ path⟩))) := by
  have refused : Storage.replace m path (Text.encode document.render) =
      .error ⟨.permissionDenied, "Read-only file: " ++ path⟩ := if_pos closed
  unfold Call.perform saveConfig
  simp only [refused]
  rfl

theorem perform_save_of_not_readOnly {path : String} (writable : m.isReadOnly path = false)
    (document : Config) :
    (Call.save path document).perform m =
      ({ m.withFile path (Text.encode document.render) with writes := m.writes + 1 },
        .saved (.ok ())) := by
  unfold Call.perform saveConfig
  simp only [Memory.replace_of_not_readOnly writable]
  rfl

/-- A save that gets through is found under its components, and nothing else changes. -/
theorem Since.saved (since : Since m calls now) {path : String}
    (writable : m.isReadOnly path = false) (document : Config) :
    Since m (calls ++ [.save path document])
      { now.withFile path (Text.encode document.render) with writes := now.writes + 1 } where
  readOnly := since.readOnly
  writes := by
    have counted : (Call.save path document).succeeds m = true := by
      simp [Call.succeeds, writable]
    rw [List.countP_append, List.countP_singleton, if_pos counted, ← Nat.add_assoc, ← since.writes]
  content other := by
    change (now.withFile path (Text.encode document.render)).content? other = _
    rw [latest?_append]
    by_cases same : components path = components other
    · have left : (Call.save path document).leaves? m other = some document := by
        simp [Call.leaves?, writable, same]
      rw [left, Memory.content?_withFile_of_eq same.symm]
      rfl
    · have left : (Call.save path document).leaves? m other = none := by
        simp [Call.leaves?, same]
      rw [left, Memory.content?_withFile_of_ne (Ne.symm same)]
      exact since.content other

/-- What is said of a store still holds of it after another call. -/
theorem Since.perform (since : Since m calls now) (call : Call) :
    Since m (calls ++ [call]) (call.perform now).1 := by
  cases call with
  | load path => exact since.still rfl fun _ => rfl
  | save path document =>
      cases closed : m.isReadOnly path with
      | true =>
          rw [perform_save_of_readOnly ((since.isReadOnly path).trans closed)]
          refine since.still ?_ fun other => ?_
          · simp [Call.succeeds, closed]
          · simp [Call.leaves?, closed]
      | false =>
          rw [perform_save_of_not_readOnly ((since.isReadOnly path).trans closed)]
          exact since.saved closed document

/-- The store that some calls leave. -/
theorem Since.performAll (since : Since m calls now) (later : List Call) :
    Since m (calls ++ later) (performAll now later).1 := by
  induction later generalizing calls now with
  | nil =>
      rw [List.append_nil]
      exact since
  | cons call later ih =>
      rw [List.append_cons]
      exact ih (since.perform call)

/-! ## What calls come to -/

theorem mem_of_latest? {path : String} {document : Config}
    (latest : latest? m path calls = some document) : ∃ other, .save other document ∈ calls := by
  obtain ⟨call, member, left⟩ := List.exists_of_findSome?_eq_some latest
  cases call with
  | load _ => cases left
  | save other saved =>
      unfold Call.leaves? at left
      simp only at left
      split at left
      · cases left
        exact ⟨other, List.mem_reverse.1 member⟩
      · cases left

theorem document_of_content? {path : String} (same : now.content? path = m.content? path) :
    document now path = document m path := by
  unfold document
  rw [same]

theorem document_of_render {path : String} {c : Config} (read : Config.ofText c.render = .ok c)
    (content : now.content? path = some (Text.encode c.render)) : document now path = .ok c := by
  unfold document
  simp only [content, Text.decode?_encode, read]

/-- If what was saved reads back, a call comes to what the calls before it tell. -/
theorem Since.reply (since : Since m calls now)
    (restores : ∀ path c, Call.save path c ∈ calls → Config.ofText c.render = .ok c)
    (call : Call) : (call.perform now).2 = call.due m calls := by
  cases call with
  | save path c =>
      cases closed : m.isReadOnly path with
      | true =>
          rw [perform_save_of_readOnly ((since.isReadOnly path).trans closed), Call.due,
            if_pos closed]
      | false =>
          rw [perform_save_of_not_readOnly ((since.isReadOnly path).trans closed), Call.due,
            if_neg (Bool.eq_false_iff.1 closed)]
  | load path =>
      have content := since.content path
      change Reply.loaded (loadConfig path (Storage.read now path)).2 = _
      rw [loadConfig_eq, Call.due]
      cases latest : latest? m path calls with
      | none =>
          rw [latest] at content
          rw [document_of_content? content]
      | some c =>
          rw [latest] at content
          obtain ⟨other, member⟩ := mem_of_latest? latest
          rw [document_of_render (restores other c member) content]

theorem performAll_append (m : Memory) (earlier later : List Call) :
    performAll m (earlier ++ later) =
      ((performAll (performAll m earlier).1 later).1,
        (performAll m earlier).2 ++ (performAll (performAll m earlier).1 later).2) := by
  induction earlier generalizing m with
  | nil => rfl
  | cons call earlier ih =>
      rw [List.cons_append, performAll, performAll, ih]
      rfl

theorem length_performAll (m : Memory) (calls : List Call) :
    (performAll m calls).2.length = calls.length := by
  induction calls generalizing m with
  | nil => rfl
  | cons call calls ih => exact congrArg (· + 1) (ih _)

/-- A save that does not get through is seen in its own reply only. -/
theorem performAll_without {earlier later : List Call} {path : String} {c : Config}
    (closed : m.isReadOnly path = true) :
    performAll m (earlier ++ later) =
      ((performAll m (earlier ++ .save path c :: later)).1,
        (performAll m (earlier ++ .save path c :: later)).2.eraseIdx earlier.length) := by
  have since := (Since.nothing m).performAll earlier
  rw [performAll_append, performAll_append, performAll,
    perform_save_of_readOnly ((since.isReadOnly path).trans closed)]
  simp only
  rw [← length_performAll m earlier, List.eraseIdx_append_of_length_le (Nat.le_refl _),
    Nat.sub_self]
  rfl

/--
Every call comes to what the calls before it tell: a save fails only where the store is closed to
writing, and a load comes to the latest document that was saved under the same components, or else
to what the store had there in the beginning. Saves that fail count for nothing and leave no mark.
-/
theorem replies_of_calls (m : Memory) (calls : List Call)
    (documents : ∀ path c, Call.save path c ∈ calls → c.IsDocument)
    (reads_back : ∀ path c, Call.save path c ∈ calls → (Config.Record.toTree c).hasTag = false →
      Yaml.Tree.ofText? (Config.Record.toTree c).render = .ok (Config.Record.toTree c)) :
    (performAll m calls).2.length = calls.length ∧
      (∀ earlier call later, calls = earlier ++ call :: later →
        (performAll m calls).2[earlier.length]? = some (call.due m earlier)) ∧
      (performAll m calls).1.writes = m.writes + calls.countP (Call.succeeds m) ∧
      (∀ earlier path c later, calls = earlier ++ .save path c :: later →
        m.isReadOnly path = true →
          performAll m (earlier ++ later) =
            ((performAll m calls).1, (performAll m calls).2.eraseIdx earlier.length)) := by
  have restores : ∀ path c, Call.save path c ∈ calls → Config.ofText c.render = .ok c :=
    fun path c member => (documents path c member).ofText_render (reads_back path c member)
  refine ⟨length_performAll m calls, ?_, ((Since.nothing m).performAll calls).writes, ?_⟩
  · rintro earlier call later rfl
    have since : Since m earlier (performAll m earlier).1 := (Since.nothing m).performAll earlier
    have reply := since.reply
      (fun path c member => restores path c (List.mem_append_left _ member)) call
    rw [performAll_append, ← length_performAll m earlier,
      List.getElem?_append_right (Nat.le_refl _), Nat.sub_self, ← reply]
    rfl
  · rintro earlier path c later rfl closed
    exact performAll_without closed

def partlyClosed : Memory := Memory.empty.withReadOnly "/etc/setup.yaml"

/-- A document is saved and loaded again under another spelling of its path. -/
def savingCalls : List Call :=
  [.load "/srv/setup.yaml", .save "/srv//setup.yaml" Config.noted,
    .save "/etc/./setup.yaml" Config.initial, .load "/srv/./setup.yaml/", .load "/etc/setup.yaml"]

theorem replies_of_savingCalls :
    (performAll partlyClosed savingCalls).1.writes = 1 ∧
      (performAll partlyClosed savingCalls).2[3]? = some (.loaded (.ok Config.noted)) ∧
      (performAll partlyClosed savingCalls).2[4]? = some (.loaded (.ok Config.initial)) := by
  have read : Config.ofText Config.notedText = .ok Config.noted :=
    Except.eq_ok_of_toOption (by decide +kernel)
  have noted_back : Yaml.Tree.ofText? (Config.Record.toTree Config.noted).render =
      .ok (Config.Record.toTree Config.noted) := Except.eq_ok_of_toOption (by decide +kernel)
  have initial_back : Yaml.Tree.ofText? (Config.Record.toTree Config.initial).render =
      .ok (Config.Record.toTree Config.initial) := Except.eq_ok_of_toOption (by decide +kernel)
  have saved {path : String} {c : Config} (member : Call.save path c ∈ savingCalls) :
      c = Config.noted ∨ c = Config.initial := by
    simp [savingCalls] at member
    rcases member with ⟨-, same⟩ | ⟨-, same⟩
    · exact .inl same
    · exact .inr same
  obtain ⟨_, replies, writes, _⟩ := replies_of_calls partlyClosed savingCalls
    (fun path c member => by
      rcases saved member with rfl | rfl
      · exact .inr ⟨_, read⟩
      · exact .inl rfl)
    (fun path c member _ => by
      rcases saved member with rfl | rfl
      · exact noted_back
      · exact initial_back)
  have latest : latest? partlyClosed "/srv/./setup.yaml/" (savingCalls.take 3) =
      some Config.noted := by decide +kernel
  have none_latest : latest? partlyClosed "/etc/setup.yaml" (savingCalls.take 4) = none := by
    decide +kernel
  refine ⟨writes.trans (by decide +kernel), (replies (savingCalls.take 3) _ _ rfl).trans ?_,
    (replies (savingCalls.take 4) _ _ rfl).trans ?_⟩
  · rw [Call.due, latest]
  · rw [Call.due, none_latest]
    rfl

end Run

end InstallerSetup
