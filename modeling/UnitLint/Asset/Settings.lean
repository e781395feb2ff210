/-!
# Built-in settings

The settings that the service manager reads, by section, each with the manual page that describes it
and the function that reads its value. Units that run processes share the settings for how these are
run, stopped and limited.
-/

namespace UnitLint.Asset

/-- A setting of some section. -/
structure Entry where
  key : String
  /-- The key with whose description this one is described. -/
  anchor? : Option String
  /-- The function that reads the value, without the part that all names of such functions share.
  Settings that only matter when a unit is installed have none. -/
  function? : Option String
  deriving DecidableEq, Repr

/-- A setting with a description of its own. -/
def entry (key function : String) : Entry := ⟨key, none, some function⟩

/-- A setting that the service manager itself does not read. -/
def unread (key : String) : Entry := ⟨key, none, none⟩

/-- The setting, described with another one. -/
def Entry.under (entry : Entry) (anchor : String) : Entry := { entry with anchor? := some anchor }

/-- Settings that a manual page describes. -/
structure Page where
  manual : String
  entries : List Entry
  deriving DecidableEq, Repr

/-- How processes are run. -/
def execution : Page where
  manual := "systemd.exec"
  entries := [
    entry "WorkingDirectory" "working_directory",
    entry "RootDirectory" "unit_path_printf",
    entry "User" "user_group_compat",
    (entry "Group" "user_group_compat").under "User",
    entry "DynamicUser" "bool",
    entry "SupplementaryGroups" "user_group_strv_compat",
    entry "UMask" "mode",
    entry "Nice" "exec_nice",
    entry "Environment" "environ",
    entry "EnvironmentFile" "unit_env_file",
    entry "PassEnvironment" "pass_environ",
    entry "StandardInput" "exec_input",
    entry "StandardOutput" "exec_output",
    (entry "StandardError" "exec_output").under "StandardOutput",
    entry "SyslogIdentifier" "unit_string_printf",
    entry "PrivateTmp" "bool",
    entry "PrivateDevices" "bool",
    entry "PrivateNetwork" "bool",
    entry "ProtectSystem" "protect_system",
    entry "ProtectHome" "protect_home",
    entry "NoNewPrivileges" "bool",
    (entry "LimitNOFILE" "rlimit").under "LimitCPU",
    entry "RuntimeDirectory" "exec_directories",
    (entry "RuntimeDirectoryMode" "mode").under "RuntimeDirectory",
    (entry "StateDirectory" "exec_directories").under "RuntimeDirectory",
    entry "CapabilityBoundingSet" "capability_set"]

/-- How processes are stopped. -/
def killing : Page where
  manual := "systemd.kill"
  entries := [
    entry "KillMode" "kill_mode",
    entry "KillSignal" "signal",
    entry "SendSIGKILL" "bool",
    entry "SendSIGHUP" "bool",
    entry "FinalKillSignal" "signal",
    entry "RestartKillSignal" "signal"]

/-- Which resources processes get. -/
def resources : Page where
  manual := "systemd.resource-control"
  entries := [
    entry "CPUAccounting" "bool",
    entry "CPUWeight" "cg_cpu_weight",
    entry "CPUQuota" "cpu_quota",
    entry "MemoryAccounting" "bool",
    entry "MemoryMax" "memory_limit",
    entry "TasksAccounting" "bool",
    entry "TasksMax" "tasks_max",
    entry "IOAccounting" "bool",
    entry "IOWeight" "cg_weight",
    entry "Delegate" "delegate",
    entry "Slice" "unit_slice"]

/-- What is mounted on access. -/
def automount : Page where
  manual := "systemd.automount"
  entries := [
    entry "Where" "unit_path_printf",
    entry "ExtraOptions" "unit_string_printf",
    entry "DirectoryMode" "mode",
    entry "TimeoutIdleSec" "sec_fix_0"]

/-- What happens when a unit is enabled. -/
def install : Page where
  manual := "systemd.unit"
  entries := [
    unread "Alias",
    unread "WantedBy",
    (unread "RequiredBy").under "WantedBy",
    (unread "UpheldBy").under "WantedBy",
    unread "Also",
    unread "DefaultInstance"]

/-- What is mounted where. -/
def mount : Page where
  manual := "systemd.mount"
  entries := [
    entry "What" "unit_string_printf",
    entry "Where" "unit_path_printf",
    entry "Type" "unit_string_printf",
    entry "Options" "unit_string_printf",
    entry "SloppyOptions" "bool",
    entry "LazyUnmount" "bool",
    entry "ReadWriteOnly" "bool",
    entry "ForceUnmount" "bool",
    entry "DirectoryMode" "mode",
    entry "TimeoutSec" "sec_fix_0"]

/-- Which paths are watched. -/
def path : Page where
  manual := "systemd.path"
  entries := [
    entry "PathExists" "path_spec",
    (entry "PathExistsGlob" "path_spec").under "PathExists",
    (entry "PathChanged" "path_spec").under "PathExists",
    (entry "PathModified" "path_spec").under "PathExists",
    (entry "DirectoryNotEmpty" "path_spec").under "PathExists",
    entry "Unit" "trigger_unit",
    entry "MakeDirectory" "bool",
    entry "DirectoryMode" "mode",
    entry "TriggerLimitIntervalSec" "sec"]

/-- Which processes make up a service. -/
def service : Page where
  manual := "systemd.service"
  entries := [
    entry "Type" "service_type",
    entry "ExitType" "service_exit_type",
    entry "RemainAfterExit" "bool",
    entry "GuessMainPID" "bool",
    entry "PIDFile" "pid_file",
    entry "BusName" "bus_name",
    entry "ExecStart" "exec",
    entry "ExecStartPre" "exec",
    (entry "ExecStartPost" "exec").under "ExecStartPre",
    entry "ExecCondition" "exec",
    entry "ExecReload" "exec",
    entry "ExecStop" "exec",
    entry "ExecStopPost" "exec",
    entry "RestartSec" "sec",
    entry "TimeoutStartSec" "service_timeout",
    entry "TimeoutStopSec" "sec_fix_0",
    entry "TimeoutAbortSec" "service_timeout_abort",
    entry "TimeoutSec" "service_timeout",
    entry "RuntimeMaxSec" "sec",
    entry "WatchdogSec" "sec",
    entry "Restart" "service_restart",
    entry "SuccessExitStatus" "set_status",
    entry "RestartPreventExitStatus" "set_status",
    entry "RestartForceExitStatus" "set_status",
    entry "RootDirectoryStartOnly" "bool",
    entry "NonBlocking" "bool",
    entry "NotifyAccess" "notify_access",
    entry "Sockets" "service_sockets",
    entry "FileDescriptorStoreMax" "unsigned",
    entry "OOMPolicy" "oom_policy"]

/-- Where connections are awaited. -/
def socket : Page where
  manual := "systemd.socket"
  entries := [
    entry "ListenStream" "socket_listen",
    (entry "ListenDatagram" "socket_listen").under "ListenStream",
    (entry "ListenSequentialPacket" "socket_listen").under "ListenStream",
    entry "ListenFIFO" "socket_listen",
    entry "Accept" "bool",
    entry "BindIPv6Only" "socket_bind",
    entry "Backlog" "unsigned",
    entry "SocketMode" "mode",
    entry "DirectoryMode" "mode",
    entry "SocketUser" "user_group_compat",
    (entry "SocketGroup" "user_group_compat").under "SocketUser",
    entry "MaxConnections" "unsigned",
    entry "KeepAlive" "bool",
    entry "NoDelay" "bool",
    entry "FreeBind" "bool",
    entry "Transparent" "bool",
    entry "Broadcast" "bool",
    entry "PassCredentials" "bool",
    entry "PassSecurity" "bool",
    entry "RemoveOnStop" "bool",
    entry "Service" "socket_service",
    entry "ExecStartPre" "exec",
    (entry "ExecStartPost" "exec").under "ExecStartPre",
    entry "ExecStopPre" "exec",
    entry "ExecStopPost" "exec",
    entry "TimeoutSec" "sec_fix_0",
    entry "TriggerLimitIntervalSec" "sec"]

/-- What is swapped to. -/
def swap : Page where
  manual := "systemd.swap"
  entries := [
    entry "What" "unit_path_printf",
    entry "Priority" "swap_priority",
    entry "Options" "unit_string_printf",
    entry "TimeoutSec" "sec_fix_0"]

/-- When a timer elapses. -/
def timer : Page where
  manual := "systemd.timer"
  entries := [
    entry "OnActiveSec" "timer",
    (entry "OnBootSec" "timer").under "OnActiveSec",
    (entry "OnStartupSec" "timer").under "OnActiveSec",
    (entry "OnUnitActiveSec" "timer").under "OnActiveSec",
    (entry "OnUnitInactiveSec" "timer").under "OnActiveSec",
    entry "OnCalendar" "timer",
    entry "AccuracySec" "sec",
    entry "RandomizedDelaySec" "sec",
    entry "FixedRandomDelay" "bool",
    entry "OnClockChange" "bool",
    (entry "OnTimezoneChange" "bool").under "OnClockChange",
    entry "Unit" "trigger_unit",
    entry "Persistent" "bool",
    entry "WakeSystem" "bool",
    entry "RemainAfterElapse" "bool"]

/-- What holds of a unit of any kind. -/
def unit : Page where
  manual := "systemd.unit"
  entries := [
    entry "Description" "unit_string_printf",
    entry "Documentation" "documentation",
    entry "Requires" "unit_deps",
    entry "Requisite" "unit_deps",
    entry "Wants" "unit_deps",
    entry "BindsTo" "unit_deps",
    entry "PartOf" "unit_deps",
    entry "Upholds" "unit_deps",
    entry "Conflicts" "unit_deps",
    entry "Before" "unit_deps",
    (entry "After" "unit_deps").under "Before",
    entry "OnFailure" "unit_deps",
    entry "OnSuccess" "unit_deps",
    entry "PropagatesReloadTo" "unit_deps",
    (entry "ReloadPropagatedFrom" "unit_deps").under "PropagatesReloadTo",
    entry "JoinsNamespaceOf" "unit_deps",
    entry "RequiresMountsFor" "unit_mounts_for",
    entry "OnFailureJobMode" "job_mode",
    entry "IgnoreOnIsolate" "bool",
    entry "StopWhenUnneeded" "bool",
    entry "RefuseManualStart" "bool",
    (entry "RefuseManualStop" "bool").under "RefuseManualStart",
    entry "AllowIsolate" "bool",
    entry "DefaultDependencies" "bool",
    entry "CollectMode" "collect_mode",
    entry "FailureAction" "emergency_action",
    (entry "SuccessAction" "emergency_action").under "FailureAction",
    entry "JobTimeoutSec" "job_timeout_sec",
    (entry "JobRunningTimeoutSec" "job_running_timeout_sec").under "JobTimeoutSec",
    entry "JobTimeoutAction" "emergency_action",
    entry "StartLimitIntervalSec" "sec",
    (entry "StartLimitBurst" "unsigned").under "StartLimitIntervalSec",
    entry "StartLimitAction" "emergency_action",
    entry "RebootArgument" "unit_string_printf",
    entry "SourcePath" "unit_path_printf",
    entry "ConditionPathExists" "unit_condition_path",
    (entry "ConditionPathIsDirectory" "unit_condition_path").under "ConditionPathExists",
    entry "ConditionVirtualization" "unit_condition_string",
    entry "ConditionHost" "unit_condition_string",
    entry "ConditionKernelCommandLine" "unit_condition_string",
    entry "ConditionACPower" "unit_condition_string",
    (entry "AssertPathExists" "unit_condition_path").under "ConditionPathExists"]

/-- The pages of every section, in alphabetical order. -/
def sections : List (String × List Page) := [
  ("Automount", [automount]),
  ("Install", [install]),
  ("Mount", [mount, execution, killing, resources]),
  ("Path", [path]),
  ("Service", [service, execution, killing, resources]),
  ("Slice", [resources]),
  ("Socket", [socket, execution, killing, resources]),
  ("Swap", [swap, execution, killing, resources]),
  ("Timer", [timer]),
  ("Unit", [unit])]

end UnitLint.Asset
