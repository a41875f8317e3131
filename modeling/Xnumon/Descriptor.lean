/-
Xnumon/Descriptor.lean

The inputs of `logevt.c`: the configuration snapshot, the event descriptors
the producer hands over, and everything the file calls but does not define.

Design.  An `image_exec_t` refers to other image executions by pointer: to
the interpreter script it runs (`script`) and to the previous image of the
same process lineage (`prev`).  We keep the pointers: a `Heap` maps every
`Ptr` to its `ImageExec`, and `NULL` is `none`.  So a `prev` chain may end,
run on forever, or come back to itself, and the ancestor walk has to cope
with all three.  The one producer invariant the file checks, the `assert`
that a script carries no signature, is a field of `Heap`: a descriptor
that breaks it cannot be built.

Bit tests on flag words (`ie->flags & EIFLAG_STAT`) become boolean fields
named after the bit.  Helpers of other compilation units (`getpwuid`,
`codesign_is_good`, `ipaddrtoa`, ...) and the constants of their headers are
the fields of `Extern`; nothing is assumed about them, so every result about
the serializers holds for every name service and every helper.
-/
import Xnumon.Sink

namespace Xnumon

/-! ### Image executions -/

/-- `logevt_header_t`: the header every event descriptor starts with. -/
structure LogevtHeader where
  tv : Timespec
  code : Nat
deriving DecidableEq, Repr

/-- The bits of `image_exec_t.flags` that `logevt.c` tests. -/
structure EiFlags where
  /-- `EIFLAG_STAT` -/
  stat : Bool
  /-- `EIFLAG_ATTR` -/
  attr : Bool
  /-- `EIFLAG_HASHES` -/
  hashes : Bool
  /-- `EIFLAG_PIDLOOKUP`: reconstructed from a bare pid. -/
  pidlookup : Bool
deriving DecidableEq, Repr

/-- The stat data of an executed file. -/
structure Stat where
  mode : Nat
  uid : UInt32
  gid : UInt32
  size : Nat
  mtime : Timespec
  ctime : Timespec
  btime : Timespec
deriving DecidableEq, Repr

/-- The digests of an executed file. -/
structure Hashes where
  md5 : List UInt8
  sha1 : List UInt8
  sha256 : List UInt8
deriving DecidableEq, Repr

/-- `codesign_t`: the result of checking a code signature.  `origin` is
`0` when there is none; `cdhash`, `ident`, `teamid` and `certcn` are
pointers that may be `NULL`. -/
structure Codesign where
  result : Nat
  origin : Nat
  cdhash : Option (List UInt8)
  cdhashsz : Nat
  ident : Option String
  teamid : Option String
  certcn : Option String
deriving DecidableEq, Repr

/-- `ipaddr_t`: an address family and the address bytes; only
`ipaddr_is_empty` and `ipaddrtoa` look inside. -/
structure Ipaddr where
  family : Nat
  addr : List UInt8
deriving DecidableEq, Repr

/-- `audit_proc_t`: a process as the audit subsystem describes it. -/
structure AuditProc where
  pid : Int
  auid : UInt32
  euid : UInt32
  egid : UInt32
  ruid : UInt32
  rgid : UInt32
  sid : Nat
  dev : Int
  addr : Ipaddr
deriving DecidableEq, Repr

/-- A pointer to an `image_exec_t`. -/
abbrev Ptr := Nat

/-- `image_exec_t`: one observed (or reconstructed) image execution. -/
structure ImageExec where
  hdr : LogevtHeader
  flags : EiFlags
  path : String
  stat : Stat
  hashes : Hashes
  codesign : Option Codesign
  script : Option Ptr
  prev : Option Ptr
  pid : Int
  fork_tv : Timespec
  argv : Option (List String)
  envv : Option (List String)
  cwd : Option String
  subject : AuditProc
deriving DecidableEq, Repr

/-- The image executions a descriptor can reach, by pointer.  Scripts are not
signed on their own: the producer guarantees it, and
`logevt_process_image_exec` asserts it for the images it renders.  The heap
carries it for every image, a stronger condition than the assertion: the
object-image rendering of an image-exec record's script reads the script's
signature without asserting anything. -/
structure Heap where
  node : Ptr → ImageExec
  script_unsigned : ∀ p s, (node p).script = some s → (node s).codesign = none

/-! ### Configuration -/

/-- `config->hflags`: which digests to log. -/
structure HashFlags where
  /-- `HASH_MD5` -/
  md5 : Bool
  /-- `HASH_SHA1` -/
  sha1 : Bool
  /-- `HASH_SHA256` -/
  sha256 : Bool
deriving DecidableEq, Repr

/-- `setstr_t`: a set of strings (the suppression lists). -/
abbrev Setstr := List String

/-- `config_t`, the fields `logevt.c` reads.  `ancestors` is a `size_t`. -/
structure Config where
  path : String
  id : Option String
  launchd_mode : Bool
  debug : Bool
  stats_interval : Nat
  hflags : HashFlags
  codesign : Bool
  resolve_users_groups : Bool
  omit_mode : Bool
  omit_size : Bool
  omit_mtime : Bool
  omit_ctime : Bool
  omit_btime : Bool
  omit_sid : Bool
  omit_groups : Bool
  omit_apple_hashes : Bool
  ancestors : UInt64
  logoneline : Int
  logfile : Option String
  limit_nofile : Nat
  suppress_image_exec_at_start : Bool
  suppress_image_exec_by_ident : Setstr
  suppress_image_exec_by_path : Setstr
  suppress_image_exec_by_ancestor_ident : Setstr
  suppress_image_exec_by_ancestor_path : Setstr
  suppress_process_access_by_subject_ident : Setstr
  suppress_process_access_by_subject_path : Setstr
  suppress_socket_op_localhost : Bool
  suppress_socket_op_by_subject_ident : Setstr
  suppress_socket_op_by_subject_path : Setstr
deriving DecidableEq, Repr

/-- `SIZE_MAX` for the 64-bit `size_t`. -/
def SIZE_MAX : UInt64 := 0xFFFFFFFFFFFFFFFF

/-- The sentinel `(uid_t)-1`, also `(gid_t)-1`. -/
def idNone : UInt32 := 0xFFFFFFFF

/-! ### External helpers -/

/-- What `logevt.c` calls or reads but does not define.  `getpwuid` and
`getgrgid` give the `pw_name`/`gr_name` of the entry they find. -/
structure Extern where
  LOGEVT_VERSION : Nat
  LOGEVT_SIZE : Nat
  MD5SZ : Nat
  SHA1SZ : Nat
  SHA256SZ : Nat
  getpwuid : UInt32 → Option String
  getgrgid : UInt32 → Option String
  codesign_is_good : Codesign → Bool
  codesign_is_apple_system : Codesign → Bool
  codesign_result_s : Codesign → String
  codesign_origin_s : Codesign → String
  ipaddr_is_empty : Ipaddr → Bool
  ipaddrtoa : Ipaddr → String
  protocoltoa : Nat → String
  config_events_s : Config → String
  config_kextlevel_s : Config → String
  config_envlevel_s : Config → String
  hashes_flags_s : HashFlags → String
  logdst_s : Config → String
  logfmt_s : Config → String
  setstr_size : Setstr → Nat
  os_name : String
  os_version : String
  os_build : String
  build_version : String
  build_date : String
  build_info : String

/-! ### Event descriptors -/

/-- `xnumon_ops_t`. -/
structure XnumonOps where
  hdr : LogevtHeader
  subtype : String
deriving DecidableEq, Repr

/-- `process_access_t`: `objectpid` is nonzero when only the object's pid is
known, and then `object` must be ignored. -/
structure ProcessAccess where
  hdr : LogevtHeader
  method : String
  object : AuditProc
  objectpid : Int
  object_image_exec : Option Ptr
  subject : AuditProc
  subject_image_exec : Option Ptr
deriving DecidableEq, Repr

/-- `launchd_add_t`; `nosubject` is the bit `LAFLAG_NOSUBJECT` of its flags. -/
structure LaunchdAdd where
  hdr : LogevtHeader
  plist_path : String
  program_rpath : Option String
  program_path : Option String
  program_argv : Option (List String)
  nosubject : Bool
  subject : AuditProc
  subject_image_exec : Option Ptr
deriving DecidableEq, Repr

/-- `socket_listen_t`. -/
structure SocketListen where
  hdr : LogevtHeader
  protocol : Nat
  sock_addr : Ipaddr
  sock_port : Nat
  subject : AuditProc
  subject_image_exec : Option Ptr
deriving DecidableEq, Repr

/-- `socket_accept_t`: a listen descriptor with the peer's address. -/
structure SocketAccept extends SocketListen where
  peer_addr : Ipaddr
  peer_port : Nat
deriving DecidableEq, Repr

/-- `socket_connect_t` has the shape of `socket_accept_t`. -/
abbrev SocketConnect := SocketAccept

/-! ### Statistics -/

/-- The process monitor's counters. -/
structure ProcmonStat where
  procs : Nat
  images : Nat
  liveacq : Nat
  miss_bypid : Nat
  miss_forksubj : Nat
  miss_execsubj : Nat
  miss_execinterp : Nat
  miss_chdirsubj : Nat
  miss_getcwd : Nat
  ooms : Nat
  pqsize : Nat
  pqlookup : Nat
  pqmiss : Nat
  pqdrop : Nat
  pqskip : Nat
deriving DecidableEq, Repr

/-- The counters of a monitor that receives and processes events
(`hackmon`, `sockmon`). -/
structure MonStat where
  recvd : Nat
  procd : Nat
  ooms : Nat
deriving DecidableEq, Repr

/-- The file monitor's counters. -/
structure FilemonStat where
  recvd : Nat
  procd : Nat
  lpmiss : Nat
  ooms : Nat
deriving DecidableEq, Repr

/-- The kernel extension's queue counters. -/
structure KextStat where
  cdev_qsize : Nat
  kauth_visitors : Nat
  kauth_timeouts : Nat
  kauth_errors : Nat
  kauth_defers : Nat
  kauth_denies : Nat
deriving DecidableEq, Repr

/-- The audit pipe's queue counters. -/
structure AupiStat where
  qlen : Nat
  qlimit : Nat
  inserts : Nat
  reads : Nat
  drops : Nat
deriving DecidableEq, Repr

/-- The work queue's length. -/
structure WorkQueueStat where
  qsize : Nat
deriving DecidableEq, Repr

/-- The log queue: its length, events queued per event code, errors. -/
structure LogQueueStat where
  qsize : Nat
  counts : Nat → Nat
  errors : Nat

/-- A cache's counters (hashes, code signatures, launchd plists). -/
structure CacheStat where
  used : Nat
  size : Nat
  puts : Nat
  gets : Nat
  hits : Nat
  misses : Nat
  invalids : Nat
deriving DecidableEq, Repr

/-- `evtloop_stat_t`. -/
structure EvtloopStat where
  hdr : LogevtHeader
  el_aupclobbers : Nat
  el_aueunknowns : Nat
  el_failedsyscalls : Nat
  el_radar38845422 : Nat
  el_radar38845422_fatal : Nat
  el_radar38845784 : Nat
  el_radar39267328 : Nat
  el_radar39267328_fatal : Nat
  el_radar39623812 : Nat
  el_radar39623812_fatal : Nat
  el_radar42770257 : Nat
  el_radar42770257_fatal : Nat
  el_radar42783724 : Nat
  el_radar42783724_fatal : Nat
  el_radar42784847 : Nat
  el_radar42784847_fatal : Nat
  el_radar42946744 : Nat
  el_radar42946744_fatal : Nat
  el_radar43151662 : Nat
  el_radar43151662_fatal : Nat
  el_missingtoken : Nat
  el_ooms : Nat
  pm : ProcmonStat
  hm : MonStat
  fm : FilemonStat
  sm : MonStat
  ke : KextStat
  ap : AupiStat
  wq : WorkQueueStat
  lq : LogQueueStat
  ch : CacheStat
  cc : CacheStat
  cl : CacheStat

end Xnumon
