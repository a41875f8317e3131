/-
Xnumon/Logevt.lean

The serializers of `logevt.c`, each as the list of `logfmt_t` calls it
makes, statement by statement.  The process-wide `config` pointer becomes
an explicit argument, and a pointer argument `image_exec_t *` is a `Ptr`
into the `Heap` (or an `Option Ptr` where it may be `NULL`).

Two kinds of sharing are made explicit.  Source functions that differ in
one value only are one definition applied to each member's values:
`logevt_uid`/`logevt_gid` are `logevtId`, and the three socket serializers
are `logevtSocket`.  Blocks the source repeats inline are named once:
`hashItems` (the digest block, written three times), `hashesShown` (its
guard in the two image renderings; the script's copy keeps its own, smaller
guard), `stringList` (the `argv`/`env` loops) and the counter tables of the
statistics record.

The ancestor walk is the one loop over pointers.  Its counter is the
`size_t depth` of the source, a `UInt64`, and the loop terminates because
each pass brings `depth` one step closer to `config->ancestors` in wrapping
arithmetic; `Xnumon.Ancestors` shows that from `depth = 0` it never wraps.
-/
import Xnumon.Descriptor

namespace Xnumon

/-! ### Small blocks -/

/-- `dict_item(key); value(v)` for a field written only when it is set. -/
def optItem (key : String) : Option Scalar → List Call
  | some v => [.dictItem key, .value v]
  | none => []

/-- `dict_item(k); value(v)` for each pair, in order. -/
def scalarItems (kvs : List (String × Scalar)) : List Call :=
  kvs.flatMap fun kv => [.dictItem kv.1, .value kv.2]

/-- A list of strings, each under `list_item(label)` (the `argv` loops). -/
def stringList (label : String) (xs : List String) : List Call :=
  .listBegin :: xs.flatMap (fun x => [.listItem label, .value (.string x)]) ++ [.listEnd]

/-! ### Identities -/

/-- `logevt_uid` and `logevt_gid`: the id under `idlabel`, `-1` for the
sentinel (with no lookup), then the name under `namelabel` when resolution is
on and the lookup finds one. -/
def logevtId (cfg : Config) (lookup : UInt32 → Option String) (id : UInt32)
    (idlabel namelabel : String) : List Call :=
  .dictItem idlabel ::
    if id = idNone then [.value (.int (-1))]
    else .value (.uint id.toNat) ::
      if cfg.resolve_users_groups then optItem namelabel ((lookup id).map .string) else []

/-- `logevt_uid` -/
def logevtUid (cfg : Config) (env : Extern) (uid : UInt32) (idlabel namelabel : String) :
    List Call :=
  logevtId cfg env.getpwuid uid idlabel namelabel

/-- `logevt_gid` -/
def logevtGid (cfg : Config) (env : Extern) (gid : UInt32) (idlabel namelabel : String) :
    List Call :=
  logevtId cfg env.getgrgid gid idlabel namelabel

/-! ### Envelope -/

/-- `logevt_header` -/
def logevtHeader (env : Extern) (hdr : LogevtHeader) : List Call :=
  [.recordBegin, .dictBegin,
    .dictItem "version", .value (.uint env.LOGEVT_VERSION),
    .dictItem "time", .value (.timespec hdr.tv),
    .dictItem "eventcode", .value (.uint hdr.code)]

/-- `logevt_footer` -/
def logevtFooter : List Call := [.dictEnd, .recordEnd]

/-! ### Startup record -/

/-- The `config` dictionary of `logevt_xnumon_ops`, key by key. -/
def opsConfigItems (cfg : Config) (env : Extern) : List (String × Scalar) :=
  [("path", .string cfg.path),
    ("id", match cfg.id with | some id => .string id | none => .null),
    ("launchd_mode", .bool cfg.launchd_mode),
    ("debug", .bool cfg.debug),
    ("events", .string (env.config_events_s cfg)),
    ("stats_interval", .uint cfg.stats_interval),
    ("kextlevel", .string (env.config_kextlevel_s cfg)),
    ("hashes", .string (env.hashes_flags_s cfg.hflags)),
    ("codesign", .bool cfg.codesign),
    ("envlevel", .string (env.config_envlevel_s cfg)),
    ("resolve_users_groups", .bool cfg.resolve_users_groups),
    ("omit_mode", .bool cfg.omit_mode),
    ("omit_size", .bool cfg.omit_size),
    ("omit_mtime", .bool cfg.omit_mtime),
    ("omit_ctime", .bool cfg.omit_ctime),
    ("omit_btime", .bool cfg.omit_btime),
    ("omit_sid", .bool cfg.omit_sid),
    ("omit_groups", .bool cfg.omit_groups),
    ("omit_apple_hashes", .bool cfg.omit_apple_hashes),
    ("ancestors",
      if cfg.ancestors < SIZE_MAX then .uint cfg.ancestors.toNat else .string "unlimited"),
    ("logdst", .string (env.logdst_s cfg)),
    ("logfmt", .string (env.logfmt_s cfg)),
    ("logoneline", if cfg.logoneline = -1 then .null else .bool (cfg.logoneline ≠ 0)),
    ("logfile", match cfg.logfile with | some f => .string f | none => .null),
    ("limit_nofile", .uint cfg.limit_nofile),
    ("suppress_image_exec_at_start", .bool cfg.suppress_image_exec_at_start),
    ("suppress_image_exec_by_ident",
      .uint (env.setstr_size cfg.suppress_image_exec_by_ident)),
    ("suppress_image_exec_by_path",
      .uint (env.setstr_size cfg.suppress_image_exec_by_path)),
    ("suppress_image_exec_by_ancestor_ident",
      .uint (env.setstr_size cfg.suppress_image_exec_by_ancestor_ident)),
    ("suppress_image_exec_by_ancestor_path",
      .uint (env.setstr_size cfg.suppress_image_exec_by_ancestor_path)),
    ("suppress_process_access_by_subject_ident",
      .uint (env.setstr_size cfg.suppress_process_access_by_subject_ident)),
    ("suppress_process_access_by_subject_path",
      .uint (env.setstr_size cfg.suppress_process_access_by_subject_path)),
    ("suppress_socket_op_localhost", .bool cfg.suppress_socket_op_localhost),
    ("suppress_socket_op_by_subject_ident",
      .uint (env.setstr_size cfg.suppress_socket_op_by_subject_ident)),
    ("suppress_socket_op_by_subject_path",
      .uint (env.setstr_size cfg.suppress_socket_op_by_subject_path))]

/-- The `build` dictionary of `logevt_xnumon_ops`. -/
def opsBuildItems (env : Extern) : List (String × Scalar) :=
  [("version", .string env.build_version), ("date", .string env.build_date),
    ("info", .string env.build_info)]

/-- The `system` dictionary of `logevt_xnumon_ops`. -/
def opsSystemItems (env : Extern) : List (String × Scalar) :=
  [("name", .string env.os_name), ("version", .string env.os_version),
    ("build", .string env.os_build)]

/-- `logevt_xnumon_ops` -/
def logevtXnumonOps (cfg : Config) (env : Extern) (ops : XnumonOps) : List Call :=
  logevtHeader env ops.hdr ++
  [.dictItem "op", .value (.string ops.subtype)] ++
  [.dictItem "build", .dictBegin] ++ scalarItems (opsBuildItems env) ++ [.dictEnd] ++
  [.dictItem "config", .dictBegin] ++ scalarItems (opsConfigItems cfg env) ++ [.dictEnd] ++
  [.dictItem "system", .dictBegin] ++ scalarItems (opsSystemItems env) ++ [.dictEnd] ++
  logevtFooter

/-! ### Statistics record -/

/-- `dict_item(k); value_uint(n)` for each counter. -/
def counterItems (kvs : List (String × Nat)) : List Call :=
  scalarItems (kvs.map fun kv => (kv.1, .uint kv.2))

/-- A dictionary of counters under `name`. -/
def counterBlock (name : String) (kvs : List (String × Nat)) : List Call :=
  [.dictItem name, .dictBegin] ++ counterItems kvs ++ [.dictEnd]

/-- The `evtloop` counters. -/
def evtloopCounters (st : EvtloopStat) : List (String × Nat) :=
  [("aupclobber", st.el_aupclobbers), ("aueunknown", st.el_aueunknowns),
    ("failedsyscall", st.el_failedsyscalls),
    ("radar38845422", st.el_radar38845422), ("radar38845422_fatal", st.el_radar38845422_fatal),
    ("radar38845784", st.el_radar38845784),
    ("radar39267328", st.el_radar39267328), ("radar39267328_fatal", st.el_radar39267328_fatal),
    ("radar39623812", st.el_radar39623812), ("radar39623812_fatal", st.el_radar39623812_fatal),
    ("radar42770257", st.el_radar42770257), ("radar42770257_fatal", st.el_radar42770257_fatal),
    ("radar42783724", st.el_radar42783724), ("radar42783724_fatal", st.el_radar42783724_fatal),
    ("radar42784847", st.el_radar42784847), ("radar42784847_fatal", st.el_radar42784847_fatal),
    ("radar42946744", st.el_radar42946744), ("radar42946744_fatal", st.el_radar42946744_fatal),
    ("radar43151662", st.el_radar43151662), ("radar43151662_fatal", st.el_radar43151662_fatal),
    ("missingtoken", st.el_missingtoken), ("oom", st.el_ooms)]

/-- The `procmon` counters before its `miss` dictionary. -/
def procmonCounters (pm : ProcmonStat) : List (String × Nat) :=
  [("actprocs", pm.procs), ("actexecimages", pm.images), ("liveacq", pm.liveacq)]

/-- The `procmon.miss` counters. -/
def missCounters (pm : ProcmonStat) : List (String × Nat) :=
  [("bypid", pm.miss_bypid), ("forksubj", pm.miss_forksubj), ("execsubj", pm.miss_execsubj),
    ("execinterp", pm.miss_execinterp), ("chdirsubj", pm.miss_chdirsubj),
    ("getcwd", pm.miss_getcwd)]

/-- The counters of `hackmon` and `sockmon`. -/
def monCounters (m : MonStat) : List (String × Nat) :=
  [("recvd", m.recvd), ("procd", m.procd), ("oom", m.ooms)]

/-- The `filemon` counters. -/
def filemonCounters (fm : FilemonStat) : List (String × Nat) :=
  [("recvd", fm.recvd), ("procd", fm.procd), ("lpmiss", fm.lpmiss), ("oom", fm.ooms)]

/-- The `kext_cdevq` counters. -/
def kextCounters (ke : KextStat) : List (String × Nat) :=
  [("buckets", ke.cdev_qsize), ("visitors", ke.kauth_visitors), ("timeout", ke.kauth_timeouts),
    ("error", ke.kauth_errors), ("defer", ke.kauth_defers), ("deny", ke.kauth_denies)]

/-- The `prep_queue` counters. -/
def prepQueueCounters (pm : ProcmonStat) : List (String × Nat) :=
  [("buckets", pm.pqsize), ("lookup", pm.pqlookup), ("miss", pm.pqmiss), ("drop", pm.pqdrop),
    ("bktskip", pm.pqskip)]

/-- The `aupi_cdevq` counters. -/
def aupiCounters (ap : AupiStat) : List (String × Nat) :=
  [("buckets", ap.qlen), ("bucketmax", ap.qlimit), ("insert", ap.inserts), ("read", ap.reads),
    ("drop", ap.drops)]

/-- The counters of a cache. -/
def cacheCounters (c : CacheStat) : List (String × Nat) :=
  [("buckets", c.used), ("bucketmax", c.size), ("put", c.puts), ("get", c.gets),
    ("hit", c.hits), ("miss", c.misses), ("inv", c.invalids)]

/-- The loop over the event codes in `log_queue.events`. -/
def eventCounts (env : Extern) (lq : LogQueueStat) : List Call :=
  (List.range env.LOGEVT_SIZE).flatMap fun i => [.listItem "event", .value (.uint (lq.counts i))]

/-- `logevt_xnumon_stats` -/
def logevtXnumonStats (env : Extern) (st : EvtloopStat) : List Call :=
  logevtHeader env st.hdr ++
  counterBlock "evtloop" (evtloopCounters st) ++
  [.dictItem "procmon", .dictBegin] ++
    counterItems (procmonCounters st.pm) ++
    counterBlock "miss" (missCounters st.pm) ++
    counterItems [("oom", st.pm.ooms)] ++
  [.dictEnd] ++
  counterBlock "hackmon" (monCounters st.hm) ++
  counterBlock "filemon" (filemonCounters st.fm) ++
  counterBlock "sockmon" (monCounters st.sm) ++
  counterBlock "kext_cdevq" (kextCounters st.ke) ++
  counterBlock "prep_queue" (prepQueueCounters st.pm) ++
  counterBlock "aupi_cdevq" (aupiCounters st.ap) ++
  counterBlock "work_queue" [("buckets", st.wq.qsize)] ++
  [.dictItem "log_queue", .dictBegin] ++
    counterItems [("buckets", st.lq.qsize)] ++
    [.dictItem "events", .listBegin] ++ eventCounts env st.lq ++ [.listEnd] ++
    counterItems [("errors", st.lq.errors)] ++
  [.dictEnd] ++
  counterBlock "hash_cache" (cacheCounters st.ch) ++
  counterBlock "csig_cache" (cacheCounters st.cc) ++
  counterBlock "ldpl_cache" (cacheCounters st.cl) ++
  logevtFooter

/-! ### Image renderings -/

/-- The digest block: `md5`, `sha1`, `sha256`, each if `config->hflags`
selects it. -/
def hashItems (cfg : Config) (env : Extern) (h : Hashes) : List Call :=
  (if cfg.hflags.md5 then [.dictItem "md5", .value (.bufHex h.md5 env.MD5SZ)] else []) ++
  (if cfg.hflags.sha1 then [.dictItem "sha1", .value (.bufHex h.sha1 env.SHA1SZ)] else []) ++
  (if cfg.hflags.sha256 then [.dictItem "sha256", .value (.bufHex h.sha256 env.SHA256SZ)] else [])

/-- The guard of the digest block of an image: `EIFLAG_HASHES`, unless
`omit_apple_hashes` drops the hashes of an Apple system binary. -/
def hashesShown (cfg : Config) (env : Extern) (ie : ImageExec) : Bool :=
  ie.flags.hashes &&
    (!cfg.omit_apple_hashes ||
      match ie.codesign with
      | none => true
      | some cs => !env.codesign_is_apple_system cs)

/-- `logevt_image_exec_image`: the object-image rendering. -/
def logevtImageExecImage (cfg : Config) (env : Extern) (ie : ImageExec) : List Call :=
  [.dictBegin, .dictItem "path", .value (.string ie.path)] ++
  (if ie.flags.stat || ie.flags.attr then
    (if !cfg.omit_mode then [.dictItem "mode", .value (.uintOct ie.stat.mode)] else []) ++
    logevtUid cfg env ie.stat.uid "uid" "uname" ++
    (if !cfg.omit_groups then logevtGid cfg env ie.stat.gid "gid" "gname" else [])
  else []) ++
  (if ie.flags.stat then
    (if !cfg.omit_size then [.dictItem "size", .value (.uint ie.stat.size)] else []) ++
    (if !cfg.omit_mtime then [.dictItem "mtime", .value (.timespec ie.stat.mtime)] else []) ++
    (if !cfg.omit_ctime then [.dictItem "ctime", .value (.timespec ie.stat.ctime)] else []) ++
    (if !cfg.omit_btime then [.dictItem "btime", .value (.timespec ie.stat.btime)] else [])
  else []) ++
  (if hashesShown cfg env ie then hashItems cfg env ie.hashes else []) ++
  (match ie.codesign with
    | some cs =>
      [.dictItem "signature", .value (.string (env.codesign_result_s cs))] ++
      (if cs.origin ≠ 0 then [.dictItem "origin", .value (.string (env.codesign_origin_s cs))]
        else []) ++
      optItem "cdhash" (cs.cdhash.map fun h => .bufHex h cs.cdhashsz) ++
      optItem "ident" (cs.ident.map .string) ++
      optItem "teamid" (cs.teamid.map .string) ++
      optItem "certcn" (cs.certcn.map .string)
    | none => []) ++
  [.dictEnd]

/-- `logevt_process_image_exec`: the process-context rendering.  The
`assert(!ie->script->codesign)` always holds, by `Heap.script_unsigned`. -/
def logevtProcessImageExec (cfg : Config) (env : Extern) (H : Heap) (p : Ptr) : List Call :=
  let ie := H.node p
  .dictBegin ::
  (if !ie.flags.pidlookup then [.dictItem "exec_time", .value (.timespec ie.hdr.tv)] else []) ++
  [.dictItem "exec_pid", .value (.int ie.pid), .dictItem "path", .value (.string ie.path)] ++
  (if hashesShown cfg env ie then hashItems cfg env ie.hashes else []) ++
  (match ie.codesign with
    | some cs =>
      if env.codesign_is_good cs then
        optItem "ident" (cs.ident.map .string) ++ optItem "teamid" (cs.teamid.map .string)
      else []
    | none => []) ++
  (match ie.script with
    | some s =>
      [.dictItem "script", .dictBegin, .dictItem "path", .value (.string (H.node s).path)] ++
      (if (H.node s).flags.hashes then hashItems cfg env (H.node s).hashes else []) ++
      [.dictEnd]
    | none => []) ++
  [.dictEnd]

/-! ### The ancestor walk -/

/-- Each pass of the walk brings the `size_t` counter one step closer to the
bound, in wrapping arithmetic. -/
theorem sub_succ_lt_sub {depth bound : UInt64} (h : depth ≠ bound) :
    (bound - (depth + 1)).toNat < (bound - depth).toNat := by
  have hne : depth.toNat ≠ bound.toNat := fun e => h (UInt64.toNat.inj e)
  have hd := depth.toNat_lt_size
  have hb := bound.toNat_lt_size
  have h1 : (1 : UInt64).toBitVec.toNat = 1 := rfl
  simp only [UInt64.toNat, UInt64.sub_def, UInt64.add_def, BitVec.toNat_sub,
    BitVec.toNat_add] at *
  omega

/-- The loop of `logevt_process_image_exec_ancestors`, from `pie` with the
counter at `depth`. -/
def ancestorsLoop (cfg : Config) (env : Extern) (H : Heap) (pie : Option Ptr) (depth : UInt64) :
    List Call :=
  match pie with
  | none => []
  | some p =>
    if 0 < (H.node p).pid then
      if depth = cfg.ancestors then []
      else
        .listItem "ancestor" :: logevtProcessImageExec cfg env H p ++
          ancestorsLoop cfg env H (H.node p).prev (depth + 1)
    else []
termination_by (cfg.ancestors - depth).toNat
decreasing_by exact sub_succ_lt_sub ‹_›

/-- `logevt_process_image_exec_ancestors` -/
def logevtProcessImageExecAncestors (cfg : Config) (env : Extern) (H : Heap) (ie : Option Ptr) :
    List Call :=
  .listBegin :: ancestorsLoop cfg env H ie 0 ++ [.listEnd]

/-! ### Processes -/

/-- `logevt_process`: a full process descriptor, or only `processpid` when
that is positive; then the image it runs and its ancestors. -/
def logevtProcess (cfg : Config) (env : Extern) (H : Heap) (process : Option AuditProc)
    (processpid : Int) (ie : Option Ptr) : List Call :=
  .dictBegin ::
  (match ie with
    | some p =>
      if (H.node p).flags.pidlookup then [.dictItem "reconstructed", .value (.bool true)] else []
    | none => []) ++
  (if 0 < processpid then [.dictItem "pid", .value (.int processpid)]
    else match process with
    | some pr =>
      [.dictItem "pid", .value (.int pr.pid)] ++
      logevtUid cfg env pr.auid "auid" "auname" ++
      logevtUid cfg env pr.euid "euid" "euname" ++
      (if !cfg.omit_groups then logevtGid cfg env pr.egid "egid" "egname" else []) ++
      logevtUid cfg env pr.ruid "ruid" "runame" ++
      (if !cfg.omit_groups then logevtGid cfg env pr.rgid "rgid" "rgname" else []) ++
      (if !cfg.omit_sid then [.dictItem "sid", .value (.uint pr.sid)] else []) ++
      (if pr.dev ≠ -1 then [.dictItem "dev", .value (.ttydev pr.dev)] else []) ++
      (if !env.ipaddr_is_empty pr.addr then
        [.dictItem "addr", .value (.string (env.ipaddrtoa pr.addr))] else [])
    | none => []) ++
  (match ie with
    | some p =>
      (if 0 < (H.node p).fork_tv.tv_sec then
        [.dictItem "fork_time", .value (.timespec (H.node p).fork_tv)] else []) ++
      .dictItem "image" :: logevtProcessImageExec cfg env H p ++
      (if 0 < cfg.ancestors then
        .dictItem "ancestors" :: logevtProcessImageExecAncestors cfg env H (H.node p).prev
      else [])
    | none => []) ++
  [.dictEnd]

/-! ### Event records -/

/-- `logevt_image_exec`: the record of the image execution at `p`. -/
def logevtImageExec (cfg : Config) (env : Extern) (H : Heap) (p : Ptr) : List Call :=
  let ie := H.node p
  logevtHeader env ie.hdr ++
  (if ie.flags.pidlookup then [.dictItem "reconstructed", .value (.bool true)] else []) ++
  (match ie.argv with | some argv => .dictItem "argv" :: stringList "arg" argv | none => []) ++
  (match ie.envv with | some envv => .dictItem "env" :: stringList "var" envv | none => []) ++
  optItem "cwd" (ie.cwd.map .string) ++
  .dictItem "image" :: logevtImageExecImage cfg env ie ++
  (match ie.script with
    | some s => .dictItem "script" :: logevtImageExecImage cfg env (H.node s)
    | none => []) ++
  .dictItem "subject" ::
    logevtProcess cfg env H (if ie.flags.pidlookup then none else some ie.subject) 0 ie.prev ++
  logevtFooter

/-- `logevt_process_access` -/
def logevtProcessAccess (cfg : Config) (env : Extern) (H : Heap) (pa : ProcessAccess) :
    List Call :=
  logevtHeader env pa.hdr ++
  [.dictItem "method", .value (.string pa.method)] ++
  .dictItem "object" ::
    logevtProcess cfg env H (some pa.object) pa.objectpid pa.object_image_exec ++
  .dictItem "subject" :: logevtProcess cfg env H (some pa.subject) 0 pa.subject_image_exec ++
  logevtFooter

/-- `logevt_launchd_add` -/
def logevtLaunchdAdd (cfg : Config) (env : Extern) (H : Heap) (ldadd : LaunchdAdd) :
    List Call :=
  logevtHeader env ldadd.hdr ++
  [.dictItem "plist", .dictBegin, .dictItem "path", .value (.string ldadd.plist_path), .dictEnd] ++
  [.dictItem "program", .dictBegin] ++
    optItem "rpath" (ldadd.program_rpath.map .string) ++
    optItem "path" (ldadd.program_path.map .string) ++
    (match ldadd.program_argv with
      | some argv => .dictItem "argv" :: stringList "arg" argv
      | none => []) ++
  [.dictEnd] ++
  (if !ldadd.nosubject then
    .dictItem "subject" ::
      logevtProcess cfg env H (some ldadd.subject) 0 ldadd.subject_image_exec
  else []) ++
  logevtFooter

/-- The three socket serializers; `peer` is the peer address and port of
`accept` and `connect`, `none` for `listen`, which has no peer block. -/
def logevtSocket (cfg : Config) (env : Extern) (H : Heap) (so : SocketListen)
    (peer : Option (Ipaddr × Nat)) : List Call :=
  logevtHeader env so.hdr ++
  (if so.protocol ≠ 0 then [.dictItem "proto", .value (.string (env.protocoltoa so.protocol))]
    else []) ++
  (if !env.ipaddr_is_empty so.sock_addr then
    [.dictItem "sockaddr", .value (.string (env.ipaddrtoa so.sock_addr)),
      .dictItem "sockport", .value (.uint so.sock_port)] else []) ++
  (match peer with
    | some (peer_addr, peer_port) =>
      if !env.ipaddr_is_empty peer_addr then
        [.dictItem "peeraddr", .value (.string (env.ipaddrtoa peer_addr)),
          .dictItem "peerport", .value (.uint peer_port)] else []
    | none => []) ++
  .dictItem "subject" :: logevtProcess cfg env H (some so.subject) 0 so.subject_image_exec ++
  logevtFooter

/-- `logevt_socket_listen` -/
def logevtSocketListen (cfg : Config) (env : Extern) (H : Heap) (so : SocketListen) :
    List Call :=
  logevtSocket cfg env H so none

/-- `logevt_socket_accept` -/
def logevtSocketAccept (cfg : Config) (env : Extern) (H : Heap) (so : SocketAccept) :
    List Call :=
  logevtSocket cfg env H so.toSocketListen (some (so.peer_addr, so.peer_port))

/-- `logevt_socket_connect` -/
def logevtSocketConnect (cfg : Config) (env : Extern) (H : Heap) (so : SocketConnect) :
    List Call :=
  logevtSocket cfg env H so.toSocketListen (some (so.peer_addr, so.peer_port))

end Xnumon
