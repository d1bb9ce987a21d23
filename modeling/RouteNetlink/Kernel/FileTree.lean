import RouteNetlink.Kernel.Files

/-! The files that every machine has, as a process in a container finds them. -/
namespace RouteNetlink
namespace FileNode

def files (names : List String) : List (String × FileNode) := names.map fun name => (name, file)

def folders (names : List String) : List (String × FileNode) :=
  names.map fun name => (name, directory false [])

/-- Directories that are made up as they are read. -/
def views (names : List String) : List (String × FileNode) :=
  names.map fun name => (name, directory true [])

def namespaces : FileNode :=
  directory true (("net", namespaceHandle true) ::
    ["cgroup", "ipc", "mnt", "pid", "pid_for_children", "time", "time_for_children", "user",
      "uts"].map fun name => (name, namespaceHandle false))

def descriptors : FileNode := directory true (files ["0", "1", "2"])

def network : FileNode :=
  directory true
    (files
      ["anycast6", "arp", "connector", "dev", "dev_mcast", "fib_trie", "fib_triestat", "icmp",
       "icmp6", "if_inet6", "igmp", "igmp6", "ip6_flowlabel", "ip6_mr_cache", "ip6_mr_vif",
       "ip_mr_cache", "ip_mr_vif", "ipv6_route", "mcfilter", "mcfilter6", "netlink", "netstat",
       "packet", "protocols", "psched", "ptype", "raw", "raw6", "route", "rt6_stats", "rt_acct",
       "rt_cache", "snmp", "snmp6", "sockstat", "sockstat6", "softnet_stat", "tcp", "tcp6", "udp",
       "udp6", "udplite", "udplite6", "unix", "xfrm_stat"] ++
      views ["dev_snmp6", "netfilter", "stat"])

/-- The directory from which paths start that do not start at the root. -/
def workingNames : List String := ["tmp"]

def taskEntries : List (String × FileNode) :=
  [("attr", directory true (files ["current", "exec", "fscreate", "keycreate", "prev",
      "sockcreate"])),
   ("cwd", link ("/" ++ "/".intercalate workingNames)), ("fd", descriptors),
   ("fdinfo", descriptors), ("net", network), ("ns", namespaces), ("root", link "/")] ++
  files
    ["arch_status", "auxv", "cgroup", "clear_refs", "cmdline", "comm", "cpuset", "environ", "exe",
     "gid_map", "io", "ksm_merging_pages", "ksm_stat", "limits", "loginuid", "maps", "mem",
     "mountinfo", "mounts", "numa_maps", "oom_adj", "oom_score", "oom_score_adj", "pagemap",
     "personality", "projid_map", "sched", "schedstat", "sessionid", "setgroups", "smaps",
     "smaps_rollup", "stack", "stat", "statm", "status", "syscall", "uid_map", "wchan"]

def process (id : String) : FileNode :=
  directory true
    (("task", directory true [(id, directory true (taskEntries ++ files ["children"]))]) ::
      taskEntries ++ views ["map_files"] ++
      files ["autogroup", "coredump_filter", "mountstats", "timens_offsets", "timers",
        "timerslack_ns"])

def ownId : String := "100"

def tunables : FileNode :=
  directory true
    ([("fs", directory true (files ["file-max", "file-nr", "nr_open", "pipe-max-size"])),
      ("kernel", directory true (files ["domainname", "hostname", "osrelease", "ostype",
        "panic", "pid_max", "threads-max", "version"] ++ views ["random", "yama"])),
      ("net", directory true
        [("core", directory true (files ["rmem_default", "rmem_max", "somaxconn",
           "wmem_default", "wmem_max"])),
         ("ipv4", directory true (files ["ip_forward"] ++ views ["conf", "neigh", "route"])),
         ("ipv6", directory true (views ["conf", "neigh", "route"])),
         ("unix", directory true (files ["max_dgram_qlen"]))]),
      ("vm", directory true (files ["overcommit_memory", "swappiness"]))] ++
      views ["abi", "debug", "dev", "user"])

def processes : FileNode :=
  directory true
    ([("1", process "1"), (ownId, process ownId), ("self", link ownId),
      ("thread-self", link (ownId ++ "/task/" ++ ownId)), ("mounts", link "self/mounts"),
      ("net", link "self/net"), ("sys", tunables),
      ("pressure", directory true (files ["cpu", "io", "memory"]))] ++
      views ["acpi", "bus", "driver", "fs", "irq", "sysvipc", "tty"] ++
      files
        ["buddyinfo", "cgroups", "cmdline", "consoles", "cpuinfo", "crypto", "devices",
         "diskstats", "dma", "execdomains", "filesystems", "interrupts", "iomem", "ioports",
         "kallsyms", "key-users", "keys", "kmsg", "kpagecgroup", "kpagecount", "kpageflags",
         "loadavg", "locks", "meminfo", "misc", "modules", "mtrr", "pagetypeinfo", "partitions",
         "schedstat", "slabinfo", "softirqs", "stat", "swaps", "timer_list", "uptime", "version",
         "vmallocinfo", "vmstat", "zoneinfo"])

def devices : FileNode :=
  directory false
    ([("fd", link "/proc/self/fd"), ("stdin", link "/proc/self/fd/0"),
      ("stdout", link "/proc/self/fd/1"), ("stderr", link "/proc/self/fd/2"),
      ("tty", sealed OsError.noAddress), ("pts", directory false (files ["ptmx"]))] ++
      files ["null", "zero", "full", "random", "urandom", "ptmx"] ++ folders ["shm"])

def objects : FileNode :=
  let loopback := directory true (files ["address", "addr_len", "carrier", "flags", "ifindex",
    "iflink", "mtu", "operstate", "type", "uevent"] ++ views ["queues", "statistics"])
  directory true
    ([("class", directory true
        [("net", directory true [("lo", link "../../devices/virtual/net/lo")])]),
      ("devices", directory true
        [("virtual", directory true [("net", directory true [("lo", loopback)])])])] ++
      views ["block", "bus", "dev", "firmware", "fs", "kernel", "module", "power"])

def accounts : FileNode :=
  directory false
    ([("mtab", link "/proc/mounts"), ("os-release", link "../usr/lib/os-release")] ++
      files ["environment", "fstab", "group", "gshadow", "host.conf", "hostname", "hosts", "issue",
        "issue.net", "ld.so.cache", "ld.so.conf", "login.defs", "machine-id", "networks",
        "nsswitch.conf", "passwd", "profile", "resolv.conf", "shadow", "shells"] ++
      folders ["alternatives", "apt", "default", "init.d", "opt", "profile.d", "skel", "ssl"])

def programs : FileNode :=
  directory false
    (files ["bash", "cat", "cp", "dash", "date", "echo", "env", "false", "grep", "id", "ln", "ls",
      "mkdir", "mv", "ps", "pwd", "rm", "sed", "sh", "sleep", "sort", "tail", "tar", "test",
      "touch", "true", "uname", "wc"])

def root : FileNode :=
  directory false
    ([("bin", link "usr/bin"), ("dev", devices), ("etc", accounts), ("lib", link "usr/lib"),
      ("lib64", link "usr/lib64"), ("proc", processes),
      ("run", directory false (folders ["lock"])), ("sbin", link "usr/sbin"), ("sys", objects),
      ("usr", directory false
        ([("bin", programs), ("lib", directory false (files ["os-release"]))] ++
          folders ["include", "lib64", "local", "sbin", "share", "src"])),
      ("var", directory false
        ([("lock", link "/run/lock"), ("run", link "/run")] ++
          folders ["cache", "lib", "local", "log", "mail", "opt", "spool", "tmp"]))] ++
      folders ["boot", "home", "media", "mnt", "opt", "root", "srv", "tmp"])

end FileNode
end RouteNetlink
