import UserDirectory.Proofs.Keyed
import UserDirectory.Proofs.Listing.Query
import UserDirectory.Proofs.Service.Outcomes
import UserDirectory.Proofs.Store.Listing
import UserDirectory.Proofs.User.Codec

/-!
# Proofs.Service.Directory — the service over documents in memory is a plain map

* `Directory`: a map from identifiers to records (details, instants of creation and of the last
  change).  `Directory.serve` is what each request does to it and is answered.
* `Directory.store m`: the documents of a directory.  A session only ever holds such stores.
* `Directory.Sound`: the details are valid and the instants are whole milliseconds.  This is the
  invariant that makes the documents decode, to the accounts that the texts of the records tell.
* `run_on_directory`: one request on the documents does what it does on the map.
* `session_refines_directory`: so does every session that starts empty.
-/

namespace UserDirectory

open Service (Answer Context Request)

/-! ## The map -/

/-- What is known about an account besides its identifier. -/
structure Record where
  details : Details
  createdAt : Instant
  updatedAt : Instant
deriving DecidableEq, Repr

/-- The account with the record. -/
def Record.user (id : Uuid) (r : Record) : User := ⟨id, r.details, r.createdAt, r.updatedAt⟩

/-- Records by the identifier of their account. -/
abbrev Directory := Keyed Uuid Record

namespace Directory

/-- The documents of a directory. -/
def store (m : Directory) : Store := m.mapValues fun id r => (r.user id).document

/-- The accounts that a listing gives: those of the documents in its slice, as the records have
them. -/
def listed (m : Directory) (q : Listing.Query) : List User :=
  match Listing.Selection.ofQuery q with
  | .ok sel => (m.store.slice sel).filterMap fun e => (m.get? e.1).map (Record.user e.1)
  | .error _ => []

/-- What a request is answered, and the directory after it.  Invalid requests change nothing, an
account that is not there is not found, and the time is cut to milliseconds. -/
def serve (c : Context) : Request → Directory → Except DomainError Answer × Directory
  | .create details, m =>
    match details.fault? with
    | some f => (.error (c.invalid f.message), m)
    | none =>
      if m.contains c.freshId then (.error (.make c.trace .internal "user not created"), m)
      else
        let record : Record := ⟨details, c.now.cutNanos, c.now.cutNanos⟩
        (.ok (.user (record.user c.freshId)), m.insert c.freshId record)
  | .update id details, m =>
    match details.fault?, m.get? id with
    | some f, _ => (.error (c.invalid f.message), m)
    | none, none => (.error (.make c.trace .notFound "user not found"), m)
    | none, some record =>
      (.ok .done, m.insert id { record with details, updatedAt := c.now.cutNanos })
  | .delete id, m =>
    if m.contains id then (.ok .done, m.erase id)
    else (.error (.make c.trace .notFound "user not found"), m)
  | .get id, m =>
    match m.get? id with
    | some record => (.ok (.user (record.user id)), m)
    | none => (.error (.make c.trace .notFound "user not found"), m)
  | .list params, m =>
    match Listing.Query.ofParams params with
    | .error f => (.error (c.invalid f.message), m)
    | .ok q => (.ok (.users (m.listed q)), m)

section Serve

variable {c : Context} {details : Details} {m : Directory}

theorem serve_create (hf : details.fault? = none) (hnew : ¬ m.contains c.freshId = true) :
    m.serve c (.create details) =
      (.ok (.user (Record.user c.freshId ⟨details, c.now.cutNanos, c.now.cutNanos⟩)),
        m.insert c.freshId ⟨details, c.now.cutNanos, c.now.cutNanos⟩) := by
  rw [serve, hf]
  dsimp only
  rw [if_neg hnew]

theorem serve_update {id : Uuid} {record : Record} (hf : details.fault? = none)
    (hget : m.get? id = some record) :
    m.serve c (.update id details) =
      (.ok .done, m.insert id { record with details, updatedAt := c.now.cutNanos }) := by
  rw [serve, hf, hget]

end Serve

/-- What the requests are answered, one after another. -/
def answers : List (Context × Request) → Directory → List (Except DomainError Answer)
  | [], _ => []
  | (c, r) :: rest, m => (m.serve c r).1 :: answers rest (m.serve c r).2

/-- The directory after the requests. -/
def after : List (Context × Request) → Directory → Directory
  | [], m => m
  | (c, r) :: rest, m => after rest (m.serve c r).2

end Directory

/-! ## What senders see -/

/-- Whether an instant is cut or too far off to be cut, its text is the same. -/
theorem User.timeMember_truncate (t : Instant) :
    User.timeMember t.truncate = User.timeMember t.cutNanos := by
  unfold User.timeMember
  rw [t.text_truncate, t.text_cutNanos]

namespace Service

/-- An answer as its receiver sees it: accounts in their serialized form. -/
inductive Shown where
  | user (value : Json)
  | users (values : List Json)
  | done

/-- The serialized form of an answer. -/
def Answer.shown : Answer → Shown
  | .user u => .user u.toJson
  | .users us => .users (us.map User.toJson)
  | .done => .done

/-- What a request's sender sees. -/
def shown (answer : Except DomainError Answer) : Except DomainError Shown :=
  answer.map Answer.shown

end Service

/-! ## Sound directories -/

/-- The details are valid and the instants are whole milliseconds. -/
structure Record.Sound (r : Record) : Prop where
  valid : r.details.check = .ok ()
  createdAt : r.createdAt.cutNanos = r.createdAt
  updatedAt : r.updatedAt.cutNanos = r.updatedAt

/-- The account with the record as it is found: with the instants that its texts name. -/
def Record.found (id : Uuid) (r : Record) : User := (r.user id).cut

/-- Found or not, the account is written with the same text. -/
theorem Record.toJson_found (id : Uuid) (r : Record) : (r.found id).toJson = (r.user id).toJson :=
  congrArg Json.object (r.user id).members_cut

theorem Record.document_found (id : Uuid) (r : Record) :
    (r.found id).document = (r.user id).document := (r.user id).document_cut

/-- The document of a sound record describes its account. -/
theorem Record.Sound.ofDocument {r : Record} (h : r.Sound) (id : Uuid) :
    User.ofDocument (r.user id).document = .ok (r.found id) := User.ofDocument_document h.valid

theorem Record.Sound.decode {r : Record} (h : r.Sound) (id : Uuid) :
    Store.decode id (r.user id).document = .ok (r.found id) :=
  Store.decode_of_ok (h.ofDocument id) id

namespace Directory

/-- All records are sound. -/
def Sound (m : Directory) : Prop := ∀ id r, m.get? id = some r → r.Sound

theorem sound_empty : Sound Keyed.empty := by
  intro id r h
  rw [Keyed.get?_empty] at h
  cases h

theorem Sound.insert {m : Directory} (hm : m.Sound) (id : Uuid) {r : Record} (hr : r.Sound) :
    Sound (Keyed.insert m id r) := by
  intro id' r' h
  rw [Keyed.get?_insert] at h
  split at h
  · rw [Option.some.injEq] at h
    exact h ▸ hr
  · exact hm id' r' h

theorem Sound.erase {m : Directory} (hm : m.Sound) (id : Uuid) : Sound (Keyed.erase m id) := by
  intro id' r' h
  rw [Keyed.get?_erase] at h
  split at h
  · cases h
  · exact hm id' r' h

/-! ## The documents of a directory -/

theorem get?_store (m : Directory) (id : Uuid) :
    m.store.get? id = (m.get? id).map fun r => (r.user id).document := Keyed.get?_mapValues _ m id

theorem get?_store_none {m : Directory} {id : Uuid} (h : m.get? id = none) :
    m.store.get? id = none := by
  rw [get?_store, h, Option.map_none]

theorem get?_store_some {m : Directory} {id : Uuid} {r : Record} (h : m.get? id = some r) :
    m.store.get? id = some (r.user id).document := by
  rw [get?_store, h, Option.map_some]

theorem contains_store (m : Directory) (id : Uuid) : m.store.contains id = m.contains id :=
  Keyed.contains_mapValues _ m id

theorem store_insert (m : Directory) (id : Uuid) (r : Record) :
    store (Keyed.insert m id r) = m.store.insert id (r.user id).document :=
  Keyed.mapValues_insert _ m id r

theorem store_erase (m : Directory) (id : Uuid) : store (Keyed.erase m id) = m.store.erase id :=
  Keyed.mapValues_erase _ m id

/-- Decoding a document of a sound directory gives the account of its record. -/
theorem Sound.decode {m : Directory} (hm : m.Sound) {id : Uuid} {d : Document}
    (h : m.store.get? id = some d) :
    ∃ r, m.get? id = some r ∧ Store.decode id d = .ok (r.found id) := by
  rw [get?_store, Option.map_eq_some_iff] at h
  obtain ⟨r, hr, rfl⟩ := h
  exact ⟨r, hr, (hm id r hr).decode id⟩

theorem Sound.mapM_decode {m : Directory} (hm : m.Sound) {es : List (Uuid × Document)}
    (hes : ∀ e ∈ es, e ∈ m.store.entries) :
    es.mapM (fun e => Store.decode e.1 e.2) =
      .ok (es.filterMap fun e => (m.get? e.1).map (Record.found e.1)) := by
  induction es with
  | nil => rfl
  | cons e es ih =>
    have hget : m.store.get? e.1 = some e.2 :=
      (Keyed.mem_entries_iff m.store e.1 e.2).mp (hes e List.mem_cons_self)
    obtain ⟨r, hr, hdecode⟩ := hm.decode hget
    have htail := ih fun d hd => hes d (List.mem_cons_of_mem e hd)
    rw [List.mapM_cons, hdecode, htail, List.filterMap_cons, hr]
    rfl

/-- An update finds no document of an account that is not there. -/
theorem update_of_absent {m : Directory} {c : Change} (h : m.get? c.id = none) :
    Store.update c m.store = (.notFound, m.store) := by
  unfold Store.update
  rw [get?_store_none h]

/-- An update writes the document of the changed record, which decodes to its account. -/
theorem Sound.update_of_get? {m : Directory} (hm : m.Sound) {id : Uuid} {r : Record}
    (h : m.get? id = some r) {details : Details} (hvalid : details.check = .ok ()) (t : Instant) :
    Store.update ⟨id, details, t.truncate⟩ m.store =
      (.written (Record.found id { r with details, updatedAt := t.cutNanos }),
        m.store.insert id (Record.user id { r with details, updatedAt := t.cutNanos }).document) := by
  have hnew : Record.Sound { r with details, updatedAt := t.cutNanos } :=
    ⟨hvalid, (hm id r h).createdAt, t.cutNanos_cutNanos⟩
  have hchange : (r.user id).document.change ⟨id, details, t.truncate⟩ =
      (Record.user id { r with details, updatedAt := t.cutNanos }).document := by
    rw [User.change_document]
    unfold User.document User.members
    rw [User.timeMember_truncate]
    rfl
  unfold Store.update
  rw [get?_store_some h]
  dsimp only
  rw [hchange, hnew.ofDocument id]

/-- A listing of the documents of a sound directory never fails. -/
theorem Sound.list {m : Directory} (hm : m.Sound) {q : Listing.Query} {sel : Listing.Selection}
    (h : Listing.Selection.ofQuery q = .ok sel) :
    Store.list q m.store =
      .ok ((m.store.slice sel).filterMap fun e => (m.get? e.1).map (Record.found e.1)) := by
  unfold Store.list
  rw [h]
  exact hm.mapM_decode fun e he => Store.mem_entries_of_mem_slice he

/-- The accounts that are found are written as the directory has them. -/
theorem map_toJson_found (m : Directory) (es : List (Uuid × Document)) :
    (es.filterMap fun e => (m.get? e.1).map (Record.found e.1)).map User.toJson =
      (es.filterMap fun e => (m.get? e.1).map (Record.user e.1)).map User.toJson := by
  rw [List.map_filterMap, List.map_filterMap]
  refine congrArg (fun f => es.filterMap f) (funext fun e => ?_)
  rw [Option.map_map, Option.map_map]
  exact congrArg (fun f => (m.get? e.1).map f) (funext fun r => r.toJson_found e.1)

end Directory

/-! ## One request -/

namespace Service

/-- A run on the documents of a directory did what the request does to the directory, and the
directory stays sound. -/
structure Agrees {π : Type} (c : Context) (r : Request) (m : Directory) (run : Run Store π) :
    Prop where
  answer : shown run.answer = shown (m.serve c r).1
  store : run.store = (m.serve c r).2.store
  sound : (m.serve c r).2.Sound

variable {π : Type} {c : Context} {r : Request} {m m' : Directory}

theorem Agrees.of_serve {run : Run Store π} {a : Except DomainError Answer}
    (hserve : m.serve c r = (a, m')) (ha : shown run.answer = shown a)
    (hs : run.store = m'.store) (hm : m'.Sound) : Agrees c r m run := by
  refine ⟨?_, ?_, ?_⟩
  · rw [hserve, ha]
  · rw [hserve, hs]
  · rw [hserve]
    exact hm

/-- A refused request agrees if the directory refuses it in the same words. -/
theorem Agrees.of_refused {e : DomainError} (bus : Publisher π) (p : π) (hm : m.Sound)
    (hplan : plan c r = .error e) (hserve : m.serve c r = (.error e, m)) :
    Agrees c r m (run .memory bus c r m.store p) := by
  rw [run_of_plan_error _ _ hplan]
  exact .of_serve hserve rfl rfl hm

variable (bus : Publisher π) (c : Context) (p : π)

theorem agrees_create (hm : m.Sound) (details : Details) :
    Agrees c (.create details) m (run .memory bus c (.create details) m.store p) := by
  cases hf : details.fault? with
  | some f =>
    refine .of_refused bus p hm (plan_create_of_fault c hf) ?_
    rw [Directory.serve, hf]
  | none =>
    rw [run_of_plan_ok _ _ (plan_create c hf)]
    dsimp only [Repository.memory, Store.create]
    rw [m.contains_store]
    by_cases hstored : m.contains c.freshId = true
    · have hserve : m.serve c (.create details) =
          (.error (.make c.trace .internal "user not created"), m) := by
        rw [Directory.serve, hf]
        dsimp only
        rw [if_pos hstored]
      rw [if_pos hstored]
      exact .of_serve hserve rfl rfl hm
    · rw [if_neg hstored]
      have hmembers : User.members ⟨c.freshId, details, c.now.truncate, c.now.truncate⟩ =
          User.members ⟨c.freshId, details, c.now.cutNanos, c.now.cutNanos⟩ := by
        unfold User.members
        rw [User.timeMember_truncate]
      refine .of_serve (Directory.serve_create hf hstored) ?_ ?_ ?_
      · show Except.ok (Shown.user (Json.object _)) = Except.ok (Shown.user (Json.object _))
        rw [hmembers]
        rfl
      · rw [m.store_insert]
        show Keyed.insert _ _ (Keyed.ofList _) = Keyed.insert _ _ (Keyed.ofList _)
        rw [hmembers]
        rfl
      · exact hm.insert c.freshId ⟨Details.check_eq_ok.mpr hf, c.now.cutNanos_cutNanos,
          c.now.cutNanos_cutNanos⟩

theorem agrees_update (hm : m.Sound) (id : Uuid) (details : Details) :
    Agrees c (.update id details) m (run .memory bus c (.update id details) m.store p) := by
  cases hf : details.fault? with
  | some f =>
    refine .of_refused bus p hm (plan_update_of_fault c hf id) ?_
    rw [Directory.serve, hf]
  | none =>
    rw [run_of_plan_ok _ _ (plan_update c hf id)]
    cases hget : m.get? id with
    | none =>
      have hserve : m.serve c (.update id details) =
          (.error (.make c.trace .notFound "user not found"), m) := by
        rw [Directory.serve, hf, hget]
      dsimp only [Repository.memory]
      rw [Directory.update_of_absent hget]
      exact .of_serve hserve rfl rfl hm
    | some record =>
      have hvalid := Details.check_eq_ok.mpr hf
      have hnew : Record.Sound { record with details, updatedAt := c.now.cutNanos } :=
        ⟨hvalid, (hm id record hget).createdAt, c.now.cutNanos_cutNanos⟩
      dsimp only [Repository.memory]
      rw [hm.update_of_get? hget hvalid]
      refine .of_serve (Directory.serve_update hf hget) rfl ?_ (hm.insert id hnew)
      rw [m.store_insert]

theorem agrees_delete (hm : m.Sound) (id : Uuid) :
    Agrees c (.delete id) m (run .memory bus c (.delete id) m.store p) := by
  have hplan : plan c (.delete id) = .ok (.delete id) := rfl
  rw [run_of_plan_ok _ _ hplan]
  dsimp only [Repository.memory, Store.delete]
  rw [m.contains_store]
  by_cases hstored : m.contains id = true
  · have hserve : m.serve c (.delete id) = (.ok .done, m.erase id) := by
      rw [Directory.serve, if_pos hstored]
    rw [if_pos hstored]
    refine .of_serve hserve rfl ?_ (hm.erase id)
    rw [m.store_erase]
  · have hserve : m.serve c (.delete id) =
        (.error (.make c.trace .notFound "user not found"), m) := by
      rw [Directory.serve, if_neg hstored]
    rw [if_neg hstored]
    exact .of_serve hserve rfl rfl hm

theorem agrees_get (hm : m.Sound) (id : Uuid) :
    Agrees c (.get id) m (run .memory bus c (.get id) m.store p) := by
  have hplan : plan c (.get id) = .ok (.find id) := rfl
  rw [run_of_plan_ok _ _ hplan]
  dsimp only [Repository.memory, Store.find]
  cases hget : m.get? id with
  | none =>
    have hserve : m.serve c (.get id) =
        (.error (.make c.trace .notFound "user not found"), m) := by
      rw [Directory.serve, hget]
    rw [Directory.get?_store_none hget]
    exact .of_serve hserve rfl rfl hm
  | some record =>
    have hserve : m.serve c (.get id) = (.ok (.user (record.user id)), m) := by
      rw [Directory.serve, hget]
    rw [Directory.get?_store_some hget]
    dsimp only
    rw [(hm id record hget).decode id]
    have hshown : shown (.ok (.user (record.found id))) = shown (.ok (.user (record.user id))) :=
      congrArg (fun v => Except.ok (Shown.user v)) (record.toJson_found id)
    exact .of_serve hserve hshown rfl hm

theorem agrees_list (hm : m.Sound) (params : Listing.Params) :
    Agrees c (.list params) m (run .memory bus c (.list params) m.store p) := by
  cases hq : Listing.Query.ofParams params with
  | error f =>
    have hplan : plan c (.list params) = .error (c.invalid f.message) := by
      rw [plan, hq]
    refine .of_refused bus p hm hplan ?_
    rw [Directory.serve, hq]
  | ok q =>
    have hplan : plan c (.list params) = .ok (.list q) := by
      rw [plan, hq]
    have hserve : m.serve c (.list params) = (.ok (.users (m.listed q)), m) := by
      rw [Directory.serve, hq]
    obtain ⟨sel, hsel⟩ := Listing.exists_selection_of_ofParams hq
    rw [run_of_plan_ok _ _ hplan]
    dsimp only [Repository.memory]
    rw [hm.list hsel]
    refine .of_serve hserve ?_ rfl hm
    show Except.ok (Shown.users (List.map User.toJson _)) = Except.ok (Shown.users _)
    rw [m.map_toJson_found, Directory.listed, hsel]

/-- **One request** on the documents of a sound directory does what it does on the map. -/
theorem run_on_directory (hm : m.Sound) (r : Request) :
    Agrees c r m (run .memory bus c r m.store p) := by
  cases r with
  | create details => exact agrees_create bus c p hm details
  | update id details => exact agrees_update bus c p hm id details
  | delete id => exact agrees_delete bus c p hm id
  | get id => exact agrees_get bus c p hm id
  | list params => exact agrees_list bus c p hm params

/-- The documents that a request leaves are those of the directory after it, which is sound. -/
theorem outcomeOn_on_directory {c : Context} (hm : m.Sound) (r : Request) :
    (outcomeOn c r m.store).2 = (m.serve c r).2.store ∧ (m.serve c r).2.Sound := by
  -- Any publisher does: what is stored does not depend on it.
  obtain ⟨-, hstore, hsound⟩ := run_on_directory (Publisher.silent Unit) c () hm r
  obtain ⟨-, hmemory, -⟩ := run_memory (c := c) (r := r) (s := m.store) (Publisher.silent Unit) ()
  exact ⟨hmemory.symm.trans hstore, hsound⟩

/-! ## Sessions -/

/-- A session on the documents of a sound directory. -/
theorem session_on_directory (rs : List (Context × Request)) (hm : m.Sound) (p : π) :
    (session .memory bus rs m.store p).map (fun now => shown now.answer) =
        (m.answers rs).map shown ∧
      (after .memory bus rs m.store p).1 = (m.after rs).store ∧ (m.after rs).Sound := by
  induction rs generalizing m p with
  | nil => exact ⟨rfl, rfl, hm⟩
  | cons q rs ih =>
    obtain ⟨c, r⟩ := q
    obtain ⟨hanswer, hstore, hsound⟩ := run_on_directory bus c p hm r
    obtain ⟨hanswers, hstores, hsounds⟩ :=
      ih hsound (run .memory bus c r m.store p).bus
    rw [session, after, hstore]
    refine ⟨?_, hstores, hsounds⟩
    rw [List.map_cons, hanswer, hanswers]
    rfl

/-- A session that starts without documents leaves those of the directory, which is sound. -/
theorem store_after (rs : List (Context × Request)) (p : π) :
    (after .memory bus rs Keyed.empty p).1 = (Directory.after rs Keyed.empty).store ∧
      (Directory.after rs Keyed.empty).Sound :=
  (session_on_directory bus rs Directory.sound_empty p).2

/-- **The service refines a plain map**: whatever the times, the drawn identifiers and the
publisher, a session that starts without documents is answered as the directory answers it, and
leaves the documents of the directory's records, which are sound. -/
theorem session_refines_directory (rs : List (Context × Request)) (p : π) :
    (session .memory bus rs Keyed.empty p).map (fun now => shown now.answer) =
        (Directory.answers rs Keyed.empty).map shown ∧
      (after .memory bus rs Keyed.empty p).1 = (Directory.after rs Keyed.empty).store ∧
      (Directory.after rs Keyed.empty).Sound :=
  session_on_directory bus rs Directory.sound_empty p

end Service
end UserDirectory
