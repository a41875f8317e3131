/-
Xnumon/Schema.lean

The key schema of the records.  A `Schema` fixes, for every dictionary
position of a record, the ordered list of keys that may appear there and
the shape of what each key holds, and for every list position the label of
its items and their shape.  `Schema.Admits σ t` says that the document `t`
has the shape `σ`: the keys of each dictionary, read in order, form a
subsequence of its position's list, and every value has the shape its key
prescribes.

`record_schemas` gives each serializer a schema, shows that no position of
it lists a key twice, and that it admits every record the serializer writes,
for every configuration, descriptor and external helper.

The proofs go through the field tables of `Xnumon.Document`: a table whose
keys are the schema's, field by field, and whose present values have their
field's shape (`Schema.Fits`) is a dictionary the schema admits
(`admits_ofFields`).
-/
import Mathlib.Data.List.Forall2
import Xnumon.Document

namespace Xnumon

/-! ### Schemas -/

/-- The shape of a value: a scalar, a dictionary with an ordered list of
keys and the shape of the value of each, or a list whose items all carry one
label and have one shape. -/
inductive Schema where
  | scalar
  | dict (fields : List (String × Schema))
  | list (label : String) (item : Schema)

/-- `σ.Admits t`: the document `t` has the shape `σ`. -/
inductive Schema.Admits : Schema → Node → Prop
  | scalar (v : Scalar) : Schema.Admits .scalar (.scalar v)
  | dict (fs : List (String × Schema)) (es : List (String × Node))
      (keys : List.Sublist (es.map Prod.fst) (fs.map Prod.fst))
      (vals : ∀ e ∈ es, ∀ s, (e.1, s) ∈ fs → Schema.Admits s e.2) :
      Schema.Admits (.dict fs) (.dict es)
  | list (label : String) (s : Schema) (es : List (String × Node))
      (labels : ∀ e ∈ es, e.1 = label) (items : ∀ e ∈ es, Schema.Admits s e.2) :
      Schema.Admits (.list label s) (.list es)

@[simp] theorem admits_scalar (v : Scalar) : Schema.scalar.Admits (.scalar v) := .scalar v

mutual
/-- No dictionary position of the schema lists a key twice. -/
def Schema.keysNodup : Schema → Bool
  | .scalar => true
  | .dict fs => decide (fs.map Prod.fst).Nodup && Schema.fieldsKeysNodup fs
  | .list _ s => s.keysNodup

/-- `keysNodup` for every field of a dictionary position. -/
def Schema.fieldsKeysNodup : List (String × Schema) → Bool
  | [] => true
  | (_, s) :: fs => s.keysNodup && Schema.fieldsKeysNodup fs
end

/-! ### From field tables to documents -/

/-- A field that may be absent has the shape `s` when it is present. -/
def Schema.AdmitsOpt (s : Schema) : Option Node → Prop
  | none => True
  | some v => s.Admits v

@[simp] theorem admitsOpt_none (s : Schema) : s.AdmitsOpt none := trivial

@[simp] theorem admitsOpt_some (s : Schema) (v : Node) : s.AdmitsOpt (some v) ↔ s.Admits v :=
  Iff.rfl

@[simp] theorem admitsOpt_map {α : Type} (s : Schema) (o : Option α) (g : α → Node) :
    s.AdmitsOpt (o.map g) ↔ ∀ a, o = some a → s.Admits (g a) := by
  cases o <;> simp [Schema.AdmitsOpt]

@[simp] theorem admitsOpt_bind {α : Type} (s : Schema) (o : Option α) (g : α → Option Node) :
    s.AdmitsOpt (o.bind g) ↔ ∀ a, o = some a → s.AdmitsOpt (g a) := by
  cases o <;> simp [Schema.AdmitsOpt]

@[simp] theorem admitsOpt_ite (s : Schema) (c : Prop) [Decidable c] (o o' : Option Node) :
    s.AdmitsOpt (if c then o else o') ↔ (c → s.AdmitsOpt o) ∧ (¬c → s.AdmitsOpt o') := by
  split_ifs with h <;> simp [h]

/-- A field of a table fits a field of a schema: the keys agree, and a
present value has the field's shape. -/
def Schema.Fits (f : String × Schema) (t : String × Option Node) : Prop :=
  f.1 = t.1 ∧ f.2.AdmitsOpt t.2

@[simp] theorem fits_mk (k k' : String) (s : Schema) (o : Option Node) :
    Schema.Fits (k, s) (k', o) ↔ k = k' ∧ s.AdmitsOpt o := Iff.rfl

theorem fits_keys {fs : List (String × Schema)} {ts : List (String × Option Node)}
    (h : List.Forall₂ Schema.Fits fs ts) : ts.map Prod.fst = fs.map Prod.fst := by
  induction h with
  | nil => rfl
  | cons hft _ ih => simp [hft.1, ih]

/-- In a table that fits a schema with distinct keys, a present value has
the shape of the schema's field of the same key. -/
theorem fits_of_mem {fs : List (String × Schema)} {ts : List (String × Option Node)}
    (h : List.Forall₂ Schema.Fits fs ts) (hnd : (fs.map Prod.fst).Nodup) {k : String}
    {v : Node} {s : Schema} (ht : (k, some v) ∈ ts) (hs : (k, s) ∈ fs) : s.Admits v := by
  induction h with
  | nil => cases ht
  | cons hft hrest ih =>
    rename_i f t fs ts
    obtain ⟨kf, sf⟩ := f
    obtain ⟨kt, ot⟩ := t
    obtain ⟨rfl, hv⟩ := hft
    obtain ⟨hnotin, hnd⟩ := List.nodup_cons.1 hnd
    simp only [List.mem_cons, Prod.mk.injEq] at ht hs
    rcases ht with ⟨rfl, rfl⟩ | ht
    · rcases hs with ⟨-, rfl⟩ | hs
      · exact hv
      · exact absurd (List.mem_map_of_mem Prod.fst hs) hnotin
    · rcases hs with ⟨rfl, -⟩ | hs
      · exact absurd (fits_keys hrest ▸ List.mem_map_of_mem Prod.fst ht) hnotin
      · exact ih hnd ht hs

/-- **A table that fits a schema is a dictionary the schema admits.** -/
theorem admits_ofFields {fs : List (String × Schema)} {ts : List (String × Option Node)}
    (h : List.Forall₂ Schema.Fits fs ts) (hnd : (fs.map Prod.fst).Nodup) :
    (Schema.dict fs).Admits (Node.ofFields ts) :=
  .dict fs _ (fits_keys h ▸ presentFields_keys_sublist ts) fun _ he _ hs =>
    fits_of_mem h hnd (mem_presentFields.1 he) hs

/-! ### Records -/

/-- A dictionary position whose keys all hold scalars. -/
def scalarKeys (ks : List String) : List (String × Schema) := ks.map fun k => (k, .scalar)

/-- The envelope keys every record starts with. -/
def envelopeSchema : List (String × Schema) := scalarKeys ["version", "time", "eventcode"]

/-- The schema of a record whose body has the fields `body`. -/
def recordSchema (body : List (String × Schema)) : Schema := .dict (envelopeSchema ++ body)

/-- `out` is one record, and `σ` admits its dictionary. -/
def Schema.AdmitsRecord (σ : Schema) (out : List Call) : Prop :=
  ∃ t, out = .recordBegin :: t.render ++ [.recordEnd] ∧ σ.Admits t

/-- A record whose body table fits `body` is a document `recordSchema body`
admits. -/
theorem admits_recordNode {body : List (String × Schema)} {ts : List (String × Option Node)}
    (h : List.Forall₂ Schema.Fits body ts) (hnd : ((envelopeSchema ++ body).map Prod.fst).Nodup)
    (env : Extern) (hdr : LogevtHeader) : (recordSchema body).Admits (recordNode env hdr ts) :=
  admits_ofFields (List.rel_append (by simp [envelopeSchema, envelopeFields, scalarKeys,
    scalarField]) h) hnd

theorem admitsRecord_recordWord {σ : Schema} {env : Extern} {hdr : LogevtHeader}
    {ts : List (String × Option Node)} (h : σ.Admits (recordNode env hdr ts)) :
    σ.AdmitsRecord (recordWord env.LOGEVT_VERSION hdr.tv hdr.code (presentFields ts)) :=
  ⟨_, recordWord_recordNode env hdr ts, h⟩

/-! ### The schemas of the records -/

/-- The object-image rendering. -/
def imageSchema : Schema :=
  .dict (scalarKeys ["path", "mode", "uid", "uname", "gid", "gname", "size", "mtime", "ctime",
    "btime", "md5", "sha1", "sha256", "signature", "origin", "cdhash", "ident", "teamid", "certcn"])

/-- The script dictionary of the process-context rendering. -/
def scriptSchema : Schema := .dict (scalarKeys ["path", "md5", "sha1", "sha256"])

/-- The process-context rendering. -/
def execSchema : Schema :=
  .dict (scalarKeys ["exec_time", "exec_pid", "path", "md5", "sha1", "sha256", "ident",
    "teamid"] ++ [("script", scriptSchema)])

/-- A process dictionary. -/
def processSchema : Schema :=
  .dict (scalarKeys ["reconstructed", "pid", "auid", "auname", "euid", "euname", "egid",
    "egname", "ruid", "runame", "rgid", "rgname", "sid", "dev", "addr", "fork_time"] ++
    [("image", execSchema), ("ancestors", .list "ancestor" execSchema)])

/-- The startup record. -/
def opsSchema : Schema :=
  recordSchema [("op", .scalar),
    ("build", .dict (scalarKeys ["version", "date", "info"])),
    ("config", .dict (scalarKeys ["path", "id", "launchd_mode", "debug", "events",
      "stats_interval", "kextlevel", "hashes", "codesign", "envlevel", "resolve_users_groups",
      "omit_mode", "omit_size", "omit_mtime", "omit_ctime", "omit_btime", "omit_sid",
      "omit_groups", "omit_apple_hashes", "ancestors", "logdst", "logfmt", "logoneline",
      "logfile", "limit_nofile", "suppress_image_exec_at_start", "suppress_image_exec_by_ident",
      "suppress_image_exec_by_path", "suppress_image_exec_by_ancestor_ident",
      "suppress_image_exec_by_ancestor_path", "suppress_process_access_by_subject_ident",
      "suppress_process_access_by_subject_path", "suppress_socket_op_localhost",
      "suppress_socket_op_by_subject_ident", "suppress_socket_op_by_subject_path"])),
    ("system", .dict (scalarKeys ["name", "version", "build"]))]

/-- The counters of `hackmon` and `sockmon`. -/
def monSchema : Schema := .dict (scalarKeys ["recvd", "procd", "oom"])

/-- The counters of a cache. -/
def cacheSchema : Schema :=
  .dict (scalarKeys ["buckets", "bucketmax", "put", "get", "hit", "miss", "inv"])

/-- The statistics record. -/
def statsSchema : Schema :=
  recordSchema [
    ("evtloop", .dict (scalarKeys ["aupclobber", "aueunknown", "failedsyscall",
      "radar38845422", "radar38845422_fatal", "radar38845784",
      "radar39267328", "radar39267328_fatal", "radar39623812", "radar39623812_fatal",
      "radar42770257", "radar42770257_fatal", "radar42783724", "radar42783724_fatal",
      "radar42784847", "radar42784847_fatal", "radar42946744", "radar42946744_fatal",
      "radar43151662", "radar43151662_fatal", "missingtoken", "oom"])),
    ("procmon", .dict (scalarKeys ["actprocs", "actexecimages", "liveacq"] ++
      [("miss", .dict (scalarKeys ["bypid", "forksubj", "execsubj", "execinterp", "chdirsubj",
        "getcwd"]))] ++ scalarKeys ["oom"])),
    ("hackmon", monSchema),
    ("filemon", .dict (scalarKeys ["recvd", "procd", "lpmiss", "oom"])),
    ("sockmon", monSchema),
    ("kext_cdevq", .dict (scalarKeys ["buckets", "visitors", "timeout", "error", "defer",
      "deny"])),
    ("prep_queue", .dict (scalarKeys ["buckets", "lookup", "miss", "drop", "bktskip"])),
    ("aupi_cdevq", .dict (scalarKeys ["buckets", "bucketmax", "insert", "read", "drop"])),
    ("work_queue", .dict (scalarKeys ["buckets"])),
    ("log_queue", .dict (scalarKeys ["buckets"] ++ [("events", .list "event" .scalar)] ++
      scalarKeys ["errors"])),
    ("hash_cache", cacheSchema),
    ("csig_cache", cacheSchema),
    ("ldpl_cache", cacheSchema)]

/-- The record of an image execution. -/
def imageExecSchema : Schema :=
  recordSchema [("reconstructed", .scalar), ("argv", .list "arg" .scalar),
    ("env", .list "var" .scalar), ("cwd", .scalar), ("image", imageSchema),
    ("script", imageSchema), ("subject", processSchema)]

/-- The record of a process access. -/
def processAccessSchema : Schema :=
  recordSchema [("method", .scalar), ("object", processSchema), ("subject", processSchema)]

/-- The record of a launchd registration. -/
def launchdAddSchema : Schema :=
  recordSchema [("plist", .dict (scalarKeys ["path"])),
    ("program", .dict (scalarKeys ["rpath", "path"] ++ [("argv", .list "arg" .scalar)])),
    ("subject", processSchema)]

/-- The three socket records; `listen` never writes the peer keys. -/
def socketSchema : Schema :=
  recordSchema (scalarKeys ["proto", "sockaddr", "sockport", "peeraddr", "peerport"] ++
    [("subject", processSchema)])

/-! ### Every rendering has its shape -/

section
variable (cfg : Config) (env : Extern) (H : Heap)

theorem admits_stringsNode (label : String) (xs : List String) :
    (Schema.list label .scalar).Admits (stringsNode label xs) :=
  .list _ _ _ (by simp) (by simp)

theorem admits_imageNode (ie : ImageExec) : imageSchema.Admits (imageNode cfg env ie) :=
  admits_ofFields (by simp [imageFields, idFields, idValue, idName, hashFields, scalarFieldIf,
    signatureFields, scalarField, scalarKeys]) (by decide)

theorem admits_execNode (p : Ptr) : execSchema.Admits (execNode cfg env H p) :=
  admits_ofFields (by simp +decide [execFields, hashFields, scalarFieldIf, scalarField,
    scalarKeys, scriptSchema, scriptNode, admits_ofFields]) (by decide)

theorem admits_ancestorsNode (pie : Option Ptr) :
    (Schema.list "ancestor" execSchema).Admits (ancestorsNode cfg env H pie) :=
  .list _ _ _ (by simp [ancestorsNode]) (by simp [ancestorsNode, admits_execNode])

theorem admits_processNode (process : Option AuditProc) (processpid : Int) (ie : Option Ptr) :
    processSchema.Admits (processNode cfg env H process processpid ie) :=
  admits_ofFields (by simp [processFields, credentialFields, idFields, idValue, idName, scalarKeys,
    admits_execNode, admits_ancestorsNode]) (by decide)

/-! ### Every record has its shape -/

theorem admits_opsRecord (ops : XnumonOps) :
    opsSchema.Admits (recordNode env ops.hdr (opsFields cfg env ops)) :=
  admits_recordNode (by simp +decide [opsFields, scalarFields, scalarField, scalarKeys,
    opsBuildItems, opsConfigItems, opsSystemItems, admits_ofFields]) (by decide) _ _

theorem admits_statsRecord (st : EvtloopStat) :
    statsSchema.Admits (recordNode env st.hdr (statsFields env st)) :=
  admits_recordNode (by simp +decide [statsFields, counterDict, counterFields, scalarFields,
    scalarField, scalarKeys, monSchema, cacheSchema, evtloopCounters, procmonCounters,
    missCounters, monCounters, filemonCounters, kextCounters, prepQueueCounters, aupiCounters,
    cacheCounters, eventsNode, admits_ofFields, Schema.Admits.list]) (by decide) _ _

theorem admits_imageExecRecord (p : Ptr) :
    imageExecSchema.Admits (recordNode env (H.node p).hdr (imageExecFields cfg env H p)) :=
  admits_recordNode (by simp [imageExecFields, scalarFieldIf, admits_stringsNode,
    admits_imageNode, admits_processNode]) (by decide) _ _

theorem admits_processAccessRecord (pa : ProcessAccess) :
    processAccessSchema.Admits (recordNode env pa.hdr (processAccessFields cfg env H pa)) :=
  admits_recordNode (by simp [processAccessFields, scalarField, admits_processNode])
    (by decide) _ _

theorem admits_launchdAddRecord (ldadd : LaunchdAdd) :
    launchdAddSchema.Admits (recordNode env ldadd.hdr (launchdAddFields cfg env H ldadd)) :=
  admits_recordNode (by simp +decide [launchdAddFields, scalarField, scalarKeys,
    admits_ofFields, admits_stringsNode, admits_processNode]) (by decide) _ _

theorem admits_socketRecord (so : SocketListen) (peer : Option (Ipaddr × Nat)) :
    socketSchema.Admits (recordNode env so.hdr (socketFields cfg env H so peer)) :=
  admits_recordNode (by simp [socketFields, scalarFieldIf, scalarKeys, admits_processNode])
    (by decide) _ _

theorem admitsRecord_socket (so : SocketListen) (peer : Option (Ipaddr × Nat)) :
    socketSchema.AdmitsRecord (logevtSocket cfg env H so peer) :=
  logevtSocket_eq cfg env H so peer ▸
    admitsRecord_recordWord (admits_socketRecord cfg env H so peer)

end

/-- **Every record follows its schema.**  Each serializer has a schema that
lists no key twice at any dictionary position, and every record the
serializer writes, for every configuration, heap, descriptor and external
helper, is admitted by it: the keys of each dictionary, in emission order,
form a subsequence of its position's key list. -/
theorem record_schemas (cfg : Config) (env : Extern) (H : Heap) :
    [opsSchema, statsSchema, imageExecSchema, processAccessSchema, launchdAddSchema,
      socketSchema].all Schema.keysNodup = true ∧
    (∀ ops, opsSchema.AdmitsRecord (logevtXnumonOps cfg env ops)) ∧
    (∀ st, statsSchema.AdmitsRecord (logevtXnumonStats env st)) ∧
    (∀ p, imageExecSchema.AdmitsRecord (logevtImageExec cfg env H p)) ∧
    (∀ pa, processAccessSchema.AdmitsRecord (logevtProcessAccess cfg env H pa)) ∧
    (∀ ldadd, launchdAddSchema.AdmitsRecord (logevtLaunchdAdd cfg env H ldadd)) ∧
    (∀ so, socketSchema.AdmitsRecord (logevtSocketListen cfg env H so)) ∧
    (∀ so, socketSchema.AdmitsRecord (logevtSocketAccept cfg env H so)) ∧
    (∀ so, socketSchema.AdmitsRecord (logevtSocketConnect cfg env H so)) :=
  ⟨by decide,
    fun ops => logevtXnumonOps_eq cfg env ops ▸
      admitsRecord_recordWord (admits_opsRecord cfg env ops),
    fun st => logevtXnumonStats_eq env st ▸ admitsRecord_recordWord (admits_statsRecord env st),
    fun p => logevtImageExec_eq cfg env H p ▸
      admitsRecord_recordWord (admits_imageExecRecord cfg env H p),
    fun pa => logevtProcessAccess_eq cfg env H pa ▸
      admitsRecord_recordWord (admits_processAccessRecord cfg env H pa),
    fun ldadd => logevtLaunchdAdd_eq cfg env H ldadd ▸
      admitsRecord_recordWord (admits_launchdAddRecord cfg env H ldadd),
    fun so => admitsRecord_socket cfg env H so _,
    fun so => admitsRecord_socket cfg env H so.toSocketListen _,
    fun so => admitsRecord_socket cfg env H so.toSocketListen _⟩

end Xnumon
