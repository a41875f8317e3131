/-
Xnumon/Document.lean

What each serializer writes, as a document: for every dictionary, a table
that lists the keys of its position in order and says, for each key, whether
the field is present and with what value.  `execNode` is the process-context
rendering of an image, `imageNode` the object-image rendering, `processNode`
a process, and `imageExecFields` ... `statsFields` the bodies of the eight
records.

These tables are written from what the fields mean, one key at a time; the
serializers of `Xnumon.Logevt` are written from the code, one call at a
time.  The refinement lemmas (`logevtProcess_eq`, `logevtImageExec_eq`, ...)
say that each serializer writes exactly the rendering of its table, and
`record_grammar` collects them: every serializer emits one word of the record
grammar, whatever the configuration, the descriptor and the external helpers.
-/
import Xnumon.Ancestors

namespace Xnumon

/-! ### Field builders -/

/-- A field that is always present, holding a scalar. -/
def scalarField (k : String) (v : Scalar) : String × Option Node := (k, some (.scalar v))

/-- A table of scalar fields that are all present. -/
def scalarFields (kvs : List (String × Scalar)) : List (String × Option Node) :=
  kvs.map fun kv => scalarField kv.1 kv.2

/-- A table of counters. -/
def counterFields (kvs : List (String × Nat)) : List (String × Option Node) :=
  scalarFields (kvs.map fun kv => (kv.1, .uint kv.2))

/-- A field holding a scalar when `c` holds. -/
def scalarFieldIf (k : String) (c : Bool) (v : Scalar) : String × Option Node :=
  (k, if c then some (.scalar v) else none)

/-- A list of strings, each under `label`. -/
def stringsNode (label : String) (xs : List String) : Node :=
  .list (xs.map fun x => (label, .scalar (.string x)))

@[simp] theorem fieldsCalls_scalarFields (kvs : List (String × Scalar)) :
    fieldsCalls (scalarFields kvs) = scalarItems kvs := by
  induction kvs with
  | nil => rfl
  | cons kv kvs ih => simp [scalarFields, scalarField, scalarItems] at ih ⊢; exact ih

@[simp] theorem fieldsCalls_counterFields (kvs : List (String × Nat)) :
    fieldsCalls (counterFields kvs) = counterItems kvs := by
  simp [counterFields, counterItems]

@[simp] theorem render_stringsNode (label : String) (xs : List String) :
    (stringsNode label xs).render = stringList label xs := by
  simp [stringsNode, stringList, renderEntries_map_label]

@[simp] theorem fieldCalls_optMap {α : Type} (k : String) (f : α → Scalar) (o : Option α) :
    fieldCalls k (o.map fun x => .scalar (f x)) = optItem k (o.map f) := by
  cases o <;> rfl

/-! ### Identities -/

/-- The value of an id field: `-1` for the sentinel. -/
def idValue (id : UInt32) : Node :=
  .scalar (if id = idNone then .int (-1) else .uint id.toNat)

/-- The name of an id: none for the sentinel, nor when resolution is off or the
lookup fails. -/
def idName (cfg : Config) (lookup : UInt32 → Option String) (id : UInt32) : Option Node :=
  if id = idNone ∨ !cfg.resolve_users_groups then none
  else (lookup id).map fun name => .scalar (.string name)

/-- The id field and the name field of an id, both absent when no id is
written. -/
def idFields (cfg : Config) (lookup : UInt32 → Option String) (oid : Option UInt32)
    (idlabel namelabel : String) : List (String × Option Node) :=
  [(idlabel, oid.map idValue), (namelabel, oid.bind (idName cfg lookup))]

theorem logevtId_eq (cfg : Config) (lookup : UInt32 → Option String) (id : UInt32)
    (idlabel namelabel : String) :
    logevtId cfg lookup id idlabel namelabel
      = fieldsCalls (idFields cfg lookup (some id) idlabel namelabel) := by
  by_cases hid : id = idNone
  · simp [logevtId, idFields, idValue, idName, hid]
  · cases hr : cfg.resolve_users_groups <;> rcases hl : lookup id with _ | name <;>
      simp [logevtId, idFields, idValue, idName, hid, hr, hl, optItem]

@[simp] theorem fieldsCalls_idFields_none (cfg : Config) (lookup : UInt32 → Option String)
    (idlabel namelabel : String) :
    fieldsCalls (idFields cfg lookup none idlabel namelabel) = [] := rfl

@[simp] theorem fieldsCalls_idFields_ite (cfg : Config) (lookup : UInt32 → Option String)
    (c : Prop) [Decidable c] (id : UInt32) (idlabel namelabel : String) :
    fieldsCalls (idFields cfg lookup (if c then some id else none) idlabel namelabel)
      = if c then fieldsCalls (idFields cfg lookup (some id) idlabel namelabel) else [] := by
  split_ifs <;> rfl

/-! ### Image renderings -/

/-- The digest fields of an image, present when `shown` and selected by
`config->hflags`. -/
def hashFields (cfg : Config) (env : Extern) (shown : Bool) (h : Hashes) :
    List (String × Option Node) :=
  [scalarFieldIf "md5" (shown && cfg.hflags.md5) (.bufHex h.md5 env.MD5SZ),
    scalarFieldIf "sha1" (shown && cfg.hflags.sha1) (.bufHex h.sha1 env.SHA1SZ),
    scalarFieldIf "sha256" (shown && cfg.hflags.sha256) (.bufHex h.sha256 env.SHA256SZ)]

theorem fieldsCalls_hashFields (cfg : Config) (env : Extern) (shown : Bool) (h : Hashes) :
    fieldsCalls (hashFields cfg env shown h) = if shown then hashItems cfg env h else [] := by
  cases shown <;> simp [hashFields, hashItems, scalarFieldIf]

/-- The signature fields of the object-image rendering. -/
def signatureFields (env : Extern) (oc : Option Codesign) : List (String × Option Node) :=
  [("signature", oc.map fun cs => .scalar (.string (env.codesign_result_s cs))),
    ("origin", oc.bind fun cs =>
      if cs.origin ≠ 0 then some (.scalar (.string (env.codesign_origin_s cs))) else none),
    ("cdhash", oc.bind fun cs => cs.cdhash.map fun h => .scalar (.bufHex h cs.cdhashsz)),
    ("ident", oc.bind fun cs => cs.ident.map fun s => .scalar (.string s)),
    ("teamid", oc.bind fun cs => cs.teamid.map fun s => .scalar (.string s)),
    ("certcn", oc.bind fun cs => cs.certcn.map fun s => .scalar (.string s))]

/-- The fields of the object-image rendering of `ie`. -/
def imageFields (cfg : Config) (env : Extern) (ie : ImageExec) : List (String × Option Node) :=
  let statOrAttr := ie.flags.stat || ie.flags.attr
  [scalarField "path" (.string ie.path),
    scalarFieldIf "mode" (statOrAttr && !cfg.omit_mode) (.uintOct ie.stat.mode)] ++
  idFields cfg env.getpwuid (if statOrAttr then some ie.stat.uid else none) "uid" "uname" ++
  idFields cfg env.getgrgid (if statOrAttr && !cfg.omit_groups then some ie.stat.gid else none)
    "gid" "gname" ++
  [scalarFieldIf "size" (ie.flags.stat && !cfg.omit_size) (.uint ie.stat.size),
    scalarFieldIf "mtime" (ie.flags.stat && !cfg.omit_mtime) (.timespec ie.stat.mtime),
    scalarFieldIf "ctime" (ie.flags.stat && !cfg.omit_ctime) (.timespec ie.stat.ctime),
    scalarFieldIf "btime" (ie.flags.stat && !cfg.omit_btime) (.timespec ie.stat.btime)] ++
  hashFields cfg env (hashesShown cfg env ie) ie.hashes ++
  signatureFields env ie.codesign

/-- The object-image rendering. -/
def imageNode (cfg : Config) (env : Extern) (ie : ImageExec) : Node :=
  .ofFields (imageFields cfg env ie)

/-- The script dictionary inside a process-context rendering. -/
def scriptNode (cfg : Config) (env : Extern) (sc : ImageExec) : Node :=
  .ofFields (scalarField "path" (.string sc.path) :: hashFields cfg env sc.flags.hashes sc.hashes)

/-- The fields of the process-context rendering of the image at `p`: the
identifier and team id only of a signature that checked out. -/
def execFields (cfg : Config) (env : Extern) (H : Heap) (p : Ptr) : List (String × Option Node) :=
  let ie := H.node p
  let good := ie.codesign.filter env.codesign_is_good
  [scalarFieldIf "exec_time" (!ie.flags.pidlookup) (.timespec ie.hdr.tv),
    scalarField "exec_pid" (.int ie.pid),
    scalarField "path" (.string ie.path)] ++
  hashFields cfg env (hashesShown cfg env ie) ie.hashes ++
  [("ident", good.bind fun cs => cs.ident.map fun s => .scalar (.string s)),
    ("teamid", good.bind fun cs => cs.teamid.map fun s => .scalar (.string s)),
    ("script", ie.script.map fun s => scriptNode cfg env (H.node s))]

/-- The process-context rendering. -/
def execNode (cfg : Config) (env : Extern) (H : Heap) (p : Ptr) : Node :=
  .ofFields (execFields cfg env H p)

theorem logevtImageExecImage_eq (cfg : Config) (env : Extern) (ie : ImageExec) :
    logevtImageExecImage cfg env ie = (imageNode cfg env ie).render := by
  simp only [imageNode, imageFields, render_ofFields, fieldsCalls_append, fieldsCalls_cons,
    fieldsCalls_nil, fieldsCalls_hashFields, logevtImageExecImage, logevtUid, logevtGid]
  cases hsa : (ie.flags.stat || ie.flags.attr) <;> cases hs : ie.flags.stat <;>
    cases ie.codesign <;>
    simp [logevtId_eq, signatureFields, scalarField, scalarFieldIf, hsa, hs]

theorem logevtProcessImageExec_eq (cfg : Config) (env : Extern) (H : Heap) (p : Ptr) :
    logevtProcessImageExec cfg env H p = (execNode cfg env H p).render := by
  simp only [execNode, execFields, render_ofFields, fieldsCalls_append, fieldsCalls_cons,
    fieldsCalls_nil, fieldsCalls_hashFields, logevtProcessImageExec]
  rcases hc : (H.node p).codesign with _ | cs
  · rcases (H.node p).script with _ | s <;>
      simp [scriptNode, scalarField, scalarFieldIf, fieldsCalls_hashFields]
  · cases hg : env.codesign_is_good cs <;> rcases (H.node p).script with _ | s <;>
      simp [scriptNode, scalarField, scalarFieldIf, fieldsCalls_hashFields, Option.filter, hg]

/-- The ancestors list: one `ancestor` item per node of the walk. -/
def ancestorsNode (cfg : Config) (env : Extern) (H : Heap) (pie : Option Ptr) : Node :=
  .list ((leadingNodes H pie cfg.ancestors.toNat).map fun q => ("ancestor", execNode cfg env H q))

theorem logevtProcessImageExecAncestors_render (cfg : Config) (env : Extern) (H : Heap)
    (pie : Option Ptr) :
    logevtProcessImageExecAncestors cfg env H pie = (ancestorsNode cfg env H pie).render := by
  simp [logevtProcessImageExecAncestors_eq, ancestorsNode, renderEntries_map_label,
    logevtProcessImageExec_eq]

/-! ### Processes -/

/-- The descriptor `logevt_process` writes out in full: none when only the pid
is known. -/
def fullProcess (process : Option AuditProc) (processpid : Int) : Option AuditProc :=
  if 0 < processpid then none else process

/-- The credential fields of a process dictionary, all absent without a
full descriptor. -/
def credentialFields (cfg : Config) (env : Extern) (full : Option AuditProc) :
    List (String × Option Node) :=
  let groups (gid : AuditProc → UInt32) := if !cfg.omit_groups then full.map gid else none
  idFields cfg env.getpwuid (full.map (·.auid)) "auid" "auname" ++
  idFields cfg env.getpwuid (full.map (·.euid)) "euid" "euname" ++
  idFields cfg env.getgrgid (groups (·.egid)) "egid" "egname" ++
  idFields cfg env.getpwuid (full.map (·.ruid)) "ruid" "runame" ++
  idFields cfg env.getgrgid (groups (·.rgid)) "rgid" "rgname" ++
  [("sid", if !cfg.omit_sid then full.map fun pr => .scalar (.uint pr.sid) else none),
    ("dev", full.bind fun pr => if pr.dev = -1 then none else some (.scalar (.ttydev pr.dev))),
    ("addr", full.bind fun pr =>
      if !env.ipaddr_is_empty pr.addr then some (.scalar (.string (env.ipaddrtoa pr.addr)))
      else none)]

/-- The fields of a process dictionary. -/
def processFields (cfg : Config) (env : Extern) (H : Heap) (process : Option AuditProc)
    (processpid : Int) (ie : Option Ptr) : List (String × Option Node) :=
  [("reconstructed", ie.bind fun p =>
      if (H.node p).flags.pidlookup then some (.scalar (.bool true)) else none),
    ("pid", if 0 < processpid then some (.scalar (.int processpid))
      else process.map fun pr => .scalar (.int pr.pid))] ++
  credentialFields cfg env (fullProcess process processpid) ++
  [("fork_time", ie.bind fun p =>
      if 0 < (H.node p).fork_tv.tv_sec then some (.scalar (.timespec (H.node p).fork_tv))
      else none),
    ("image", ie.map fun p => execNode cfg env H p),
    ("ancestors", ie.bind fun p =>
      if 0 < cfg.ancestors then some (ancestorsNode cfg env H (H.node p).prev) else none)]

/-- A process dictionary. -/
def processNode (cfg : Config) (env : Extern) (H : Heap) (process : Option AuditProc)
    (processpid : Int) (ie : Option Ptr) : Node :=
  .ofFields (processFields cfg env H process processpid ie)

theorem logevtProcess_eq (cfg : Config) (env : Extern) (H : Heap) (process : Option AuditProc)
    (processpid : Int) (ie : Option Ptr) :
    logevtProcess cfg env H process processpid ie
      = (processNode cfg env H process processpid ie).render := by
  simp only [processNode, processFields, credentialFields, render_ofFields, fieldsCalls_append,
    fieldsCalls_cons, fieldsCalls_nil, logevtProcess, logevtUid, logevtGid, fullProcess]
  by_cases hpid : 0 < processpid
  · cases ie <;> simp [hpid, logevtProcessImageExec_eq, logevtProcessImageExecAncestors_render]
  · cases process <;> cases ie <;>
      simp [hpid, logevtId_eq, logevtProcessImageExec_eq, logevtProcessImageExecAncestors_render]

/-! ### Records -/

/-- The envelope fields `logevt_header` writes. -/
def envelopeFields (env : Extern) (hdr : LogevtHeader) : List (String × Option Node) :=
  [scalarField "version" (.uint env.LOGEVT_VERSION), scalarField "time" (.timespec hdr.tv),
    scalarField "eventcode" (.uint hdr.code)]

/-- A record as a document: the envelope fields, then the body table `fs`. -/
def recordNode (env : Extern) (hdr : LogevtHeader) (fs : List (String × Option Node)) : Node :=
  .ofFields (envelopeFields env hdr ++ fs)

theorem recordWord_recordNode (env : Extern) (hdr : LogevtHeader)
    (fs : List (String × Option Node)) :
    recordWord env.LOGEVT_VERSION hdr.tv hdr.code (presentFields fs)
      = .recordBegin :: (recordNode env hdr fs).render ++ [.recordEnd] := by
  simp [recordWord, recordNode, envelope, envelopeFields, scalarField, Node.ofFields]

/-- A record with a table as its body is the header, the table, the footer. -/
theorem recordWord_fields (env : Extern) (hdr : LogevtHeader) (fs : List (String × Option Node)) :
    recordWord env.LOGEVT_VERSION hdr.tv hdr.code (presentFields fs)
      = logevtHeader env hdr ++ fieldsCalls fs ++ logevtFooter := by
  simp [recordWord_eq, logevtHeader, logevtFooter, renderEntries_presentFields]

/-- The body of the startup record. -/
def opsFields (cfg : Config) (env : Extern) (ops : XnumonOps) : List (String × Option Node) :=
  [scalarField "op" (.string ops.subtype),
    ("build", some (.ofFields (scalarFields (opsBuildItems env)))),
    ("config", some (.ofFields (scalarFields (opsConfigItems cfg env)))),
    ("system", some (.ofFields (scalarFields (opsSystemItems env))))]

theorem logevtXnumonOps_eq (cfg : Config) (env : Extern) (ops : XnumonOps) :
    logevtXnumonOps cfg env ops
      = recordWord env.LOGEVT_VERSION ops.hdr.tv ops.hdr.code
          (presentFields (opsFields cfg env ops)) := by
  rw [recordWord_fields]
  simp [logevtXnumonOps, opsFields, scalarField]

/-- A dictionary of counters. -/
def counterDict (kvs : List (String × Nat)) : Node := .ofFields (counterFields kvs)

/-- The list `log_queue.events`: one count per event code. -/
def eventsNode (env : Extern) (lq : LogQueueStat) : Node :=
  .list ((List.range env.LOGEVT_SIZE).map fun i => ("event", .scalar (.uint (lq.counts i))))

/-- The body of the statistics record. -/
def statsFields (env : Extern) (st : EvtloopStat) : List (String × Option Node) :=
  [("evtloop", some (counterDict (evtloopCounters st))),
    ("procmon", some (.ofFields (counterFields (procmonCounters st.pm) ++
      [("miss", some (counterDict (missCounters st.pm)))] ++ counterFields [("oom", st.pm.ooms)]))),
    ("hackmon", some (counterDict (monCounters st.hm))),
    ("filemon", some (counterDict (filemonCounters st.fm))),
    ("sockmon", some (counterDict (monCounters st.sm))),
    ("kext_cdevq", some (counterDict (kextCounters st.ke))),
    ("prep_queue", some (counterDict (prepQueueCounters st.pm))),
    ("aupi_cdevq", some (counterDict (aupiCounters st.ap))),
    ("work_queue", some (counterDict [("buckets", st.wq.qsize)])),
    ("log_queue", some (.ofFields (counterFields [("buckets", st.lq.qsize)] ++
      [("events", some (eventsNode env st.lq))] ++ counterFields [("errors", st.lq.errors)]))),
    ("hash_cache", some (counterDict (cacheCounters st.ch))),
    ("csig_cache", some (counterDict (cacheCounters st.cc))),
    ("ldpl_cache", some (counterDict (cacheCounters st.cl)))]

@[simp] theorem render_counterDict (kvs : List (String × Nat)) :
    (counterDict kvs).render = .dictBegin :: counterItems kvs ++ [.dictEnd] := by
  simp [counterDict]

theorem logevtXnumonStats_eq (env : Extern) (st : EvtloopStat) :
    logevtXnumonStats env st
      = recordWord env.LOGEVT_VERSION st.hdr.tv st.hdr.code
          (presentFields (statsFields env st)) := by
  rw [recordWord_fields]
  simp [logevtXnumonStats, statsFields, eventsNode, eventCounts, renderEntries_map_label,
    counterBlock]

/-- The body of the record of an image execution. -/
def imageExecFields (cfg : Config) (env : Extern) (H : Heap) (p : Ptr) :
    List (String × Option Node) :=
  let ie := H.node p
  [scalarFieldIf "reconstructed" ie.flags.pidlookup (.bool true),
    ("argv", ie.argv.map (stringsNode "arg")),
    ("env", ie.envv.map (stringsNode "var")),
    ("cwd", ie.cwd.map fun s => .scalar (.string s)),
    ("image", some (imageNode cfg env ie)),
    ("script", ie.script.map fun s => imageNode cfg env (H.node s)),
    ("subject", some (processNode cfg env H
      (if ie.flags.pidlookup then none else some ie.subject) 0 ie.prev))]

theorem logevtImageExec_eq (cfg : Config) (env : Extern) (H : Heap) (p : Ptr) :
    logevtImageExec cfg env H p
      = recordWord env.LOGEVT_VERSION (H.node p).hdr.tv (H.node p).hdr.code
          (presentFields (imageExecFields cfg env H p)) := by
  rw [recordWord_fields]
  simp only [imageExecFields, logevtImageExec, fieldsCalls_cons, fieldsCalls_nil,
    logevtImageExecImage_eq, logevtProcess_eq]
  rcases (H.node p).argv with _ | argv <;> rcases (H.node p).envv with _ | envv <;>
    rcases (H.node p).script with _ | s <;> simp [scalarFieldIf]

/-- The body of the record of a process access. -/
def processAccessFields (cfg : Config) (env : Extern) (H : Heap) (pa : ProcessAccess) :
    List (String × Option Node) :=
  [scalarField "method" (.string pa.method),
    ("object", some (processNode cfg env H (some pa.object) pa.objectpid pa.object_image_exec)),
    ("subject", some (processNode cfg env H (some pa.subject) 0 pa.subject_image_exec))]

theorem logevtProcessAccess_eq (cfg : Config) (env : Extern) (H : Heap) (pa : ProcessAccess) :
    logevtProcessAccess cfg env H pa
      = recordWord env.LOGEVT_VERSION pa.hdr.tv pa.hdr.code
          (presentFields (processAccessFields cfg env H pa)) := by
  rw [recordWord_fields]
  simp [logevtProcessAccess, processAccessFields, scalarField, logevtProcess_eq]

/-- The body of the record of a launchd registration. -/
def launchdAddFields (cfg : Config) (env : Extern) (H : Heap) (ldadd : LaunchdAdd) :
    List (String × Option Node) :=
  [("plist", some (.ofFields [scalarField "path" (.string ldadd.plist_path)])),
    ("program", some (.ofFields
      [("rpath", ldadd.program_rpath.map fun s => .scalar (.string s)),
        ("path", ldadd.program_path.map fun s => .scalar (.string s)),
        ("argv", ldadd.program_argv.map (stringsNode "arg"))])),
    ("subject", if !ldadd.nosubject then
      some (processNode cfg env H (some ldadd.subject) 0 ldadd.subject_image_exec) else none)]

theorem logevtLaunchdAdd_eq (cfg : Config) (env : Extern) (H : Heap) (ldadd : LaunchdAdd) :
    logevtLaunchdAdd cfg env H ldadd
      = recordWord env.LOGEVT_VERSION ldadd.hdr.tv ldadd.hdr.code
          (presentFields (launchdAddFields cfg env H ldadd)) := by
  rw [recordWord_fields]
  rcases h : ldadd.program_argv with _ | argv <;>
    simp [logevtLaunchdAdd, launchdAddFields, scalarField, logevtProcess_eq, h]

/-- The body of the three socket records; `peer` as in `logevtSocket`. -/
def socketFields (cfg : Config) (env : Extern) (H : Heap) (so : SocketListen)
    (peer : Option (Ipaddr × Nat)) : List (String × Option Node) :=
  let peerShown := peer.filter fun pp => !env.ipaddr_is_empty pp.1
  [scalarFieldIf "proto" (so.protocol != 0) (.string (env.protocoltoa so.protocol)),
    scalarFieldIf "sockaddr" (!env.ipaddr_is_empty so.sock_addr)
      (.string (env.ipaddrtoa so.sock_addr)),
    scalarFieldIf "sockport" (!env.ipaddr_is_empty so.sock_addr) (.uint so.sock_port),
    ("peeraddr", peerShown.map fun pp => .scalar (.string (env.ipaddrtoa pp.1))),
    ("peerport", peerShown.map fun pp => .scalar (.uint pp.2)),
    ("subject", some (processNode cfg env H (some so.subject) 0 so.subject_image_exec))]

theorem logevtSocket_eq (cfg : Config) (env : Extern) (H : Heap) (so : SocketListen)
    (peer : Option (Ipaddr × Nat)) :
    logevtSocket cfg env H so peer
      = recordWord env.LOGEVT_VERSION so.hdr.tv so.hdr.code
          (presentFields (socketFields cfg env H so peer)) := by
  rw [recordWord_fields]
  rcases peer with _ | ⟨addr, port⟩
  · cases h : env.ipaddr_is_empty so.sock_addr <;>
      simp [logevtSocket, socketFields, scalarFieldIf, logevtProcess_eq, h]
  · cases h : env.ipaddr_is_empty so.sock_addr <;> cases h' : env.ipaddr_is_empty addr <;>
      simp [logevtSocket, socketFields, scalarFieldIf, Option.filter, logevtProcess_eq, h, h']

/-! ### The record grammar -/

/-- **Every serializer writes one record.**  For every configuration, every
heap of image executions, every descriptor and every behaviour of the
external helpers, each of the eight serializers emits exactly one word of
the record grammar: `record_begin`, one dictionary that starts with the
envelope `version`, `time`, `eventcode` and goes on with keyed values,
`record_end`. -/
theorem record_grammar (cfg : Config) (env : Extern) (H : Heap) :
    (∀ ops : XnumonOps, ∃ body, logevtXnumonOps cfg env ops
      = recordWord env.LOGEVT_VERSION ops.hdr.tv ops.hdr.code body) ∧
    (∀ st : EvtloopStat, ∃ body, logevtXnumonStats env st
      = recordWord env.LOGEVT_VERSION st.hdr.tv st.hdr.code body) ∧
    (∀ p : Ptr, ∃ body, logevtImageExec cfg env H p
      = recordWord env.LOGEVT_VERSION (H.node p).hdr.tv (H.node p).hdr.code body) ∧
    (∀ pa : ProcessAccess, ∃ body, logevtProcessAccess cfg env H pa
      = recordWord env.LOGEVT_VERSION pa.hdr.tv pa.hdr.code body) ∧
    (∀ ldadd : LaunchdAdd, ∃ body, logevtLaunchdAdd cfg env H ldadd
      = recordWord env.LOGEVT_VERSION ldadd.hdr.tv ldadd.hdr.code body) ∧
    (∀ so : SocketListen, ∃ body, logevtSocketListen cfg env H so
      = recordWord env.LOGEVT_VERSION so.hdr.tv so.hdr.code body) ∧
    (∀ so : SocketAccept, ∃ body, logevtSocketAccept cfg env H so
      = recordWord env.LOGEVT_VERSION so.hdr.tv so.hdr.code body) ∧
    (∀ so : SocketConnect, ∃ body, logevtSocketConnect cfg env H so
      = recordWord env.LOGEVT_VERSION so.hdr.tv so.hdr.code body) :=
  ⟨fun ops => ⟨_, logevtXnumonOps_eq cfg env ops⟩,
    fun st => ⟨_, logevtXnumonStats_eq env st⟩,
    fun p => ⟨_, logevtImageExec_eq cfg env H p⟩,
    fun pa => ⟨_, logevtProcessAccess_eq cfg env H pa⟩,
    fun ldadd => ⟨_, logevtLaunchdAdd_eq cfg env H ldadd⟩,
    fun so => ⟨_, logevtSocket_eq cfg env H so none⟩,
    fun so => ⟨_, logevtSocket_eq cfg env H so.toSocketListen _⟩,
    fun so => ⟨_, logevtSocket_eq cfg env H so.toSocketListen _⟩⟩

end Xnumon
