/-!
# Documented sections

The sections of unit files that have a manual page, with the address of the page and a short
description in HTML. Names are compared exactly, as the service manager compares them.
-/

namespace UnitLint

/-- A section with a manual page. -/
inductive KnownSection where
  | automount
  | install
  | mount
  | path
  | service
  | slice
  | socket
  | swap
  | timer
  | unit
  deriving DecidableEq, Repr

namespace KnownSection

/-- All documented sections, in alphabetical order. -/
def all : List KnownSection :=
  [automount, install, mount, path, service, slice, socket, swap, timer, unit]

/-- The name in the header of the section. -/
def name : KnownSection → String
  | automount => "Automount"
  | install => "Install"
  | mount => "Mount"
  | path => "Path"
  | service => "Service"
  | slice => "Slice"
  | socket => "Socket"
  | swap => "Swap"
  | timer => "Timer"
  | unit => "Unit"

/-- The section of the given name. -/
def ofName? (name : String) : Option KnownSection :=
  all.find? (·.name = name)

/-- Where the manual pages are. -/
def manualRoot : String := "https://www.freedesktop.org/software/systemd/man/"

/-- The address of the manual page, and of the part of it that treats the section. -/
def referenceUrl (s : KnownSection) : String :=
  manualRoot ++
    match s with
    | automount => "systemd.automount.html"
    | install => "systemd.unit.html#%5BInstall%5D%20Section%20Options"
    | mount => "systemd.mount.html"
    | path => "systemd.path.html"
    | service => "systemd.service.html"
    | slice => "systemd.slice.html"
    | socket => "systemd.socket.html"
    | swap => "systemd.swap.html"
    | timer => "systemd.timer.html"
    | unit => "systemd.unit.html#%5BUnit%5D%20Section%20Options"

/-- A link to a manual page. -/
def pageLink (number page : String) : String :=
  "<a href=\"http://man7.org/linux/man-pages/man" ++ number ++ "/" ++ page ++ "." ++ number ++
    ".html\">" ++ page ++ "(" ++ number ++ ")</a>"

/-- A short description of the section. The layout is part of the text. -/
def description : KnownSection → String
  | automount =>
    "Automount files must include an [Automount] section, which carries\n" ++
    "       information about the file system automount points it supervises."
  | install =>
    "Unit files may include an \"[Install]\" section, which carries\n" ++
    "       installation information for the unit. This section is not\n" ++
    "       interpreted by " ++ pageLink "1" "systemd" ++ " during runtime; it is" ++
    "       used by the <b>enable</b> and <b>disable </b>commands of the" ++
    "       " ++ pageLink "1" "systemctl" ++ " tool during installation of\n" ++
    "       a unit. "
  | mount =>
    " Mount files must include a [Mount] section, which carries information\n" ++
    "       about the file system mount points it supervises. A number of options\n" ++
    "       that may be used in this section are shared with other unit types.\n" ++
    "       These options are documented in " ++ pageLink "5" "systemd.exec" ++ " and " ++
    pageLink "5" "systemd.kill" ++ "."
  | path =>
    "Path files must include a [Path] section, which carries information\n" ++
    "       about the path(s) it monitors"
  | service =>
    "Service files must include a \"[Service]\" section, which carries\n" ++
    "information about the service and the process it supervises. A number\n" ++
    "of options that may be used in this section are shared with other\n" ++
    "unit types. These options are documented in " ++ pageLink "5" "systemd.exec" ++ ",\n" ++
    pageLink "5" "systemd.kill" ++ " and " ++ pageLink "5" "systemd.resource-control" ++ "."
  | slice =>
    "The slice specific configuration\n" ++
    "       options are configured in the [Slice] section. Currently, only\n" ++
    "       generic resource control settings as described in\n" ++
    "       " ++ pageLink "5" "systemd.resource-control" ++ " are allowed.\n"
  | socket =>
    "Socket files must include a [Socket] section, which carries\n" ++
    "       information about the socket or FIFO it supervises. A number of\n" ++
    "       options that may be used in this section are shared with other unit\n" ++
    "       types. These options are documented in " ++
    "<a href=\"http://man7.org/linux/man-pages/man5/systemd.exec.5.html\">" ++
    "       systemd.exec(5)</a> and " ++ pageLink "5" "systemd.kill" ++ "."
  | swap =>
    "Swap files must include a [Swap] section, which carries information\n" ++
    " about the swap device it supervises. A number of options that may be\n" ++
    " used in this section are shared with other unit types. These options\n" ++
    " are documented in " ++ pageLink "5" "systemd.exec" ++ " and " ++
    pageLink "5" "systemd.kill"
  | timer =>
    " Timer files must include a [Timer] section, which carries information\n" ++
    " about the timer it defines."
  | unit =>
    "The unit file may include a [Unit] section, which carries generic\n" ++
    " information about the unit that is not dependent on the type of unit."

end KnownSection

/-- The address of the manual page of a section, if it has one. -/
def sectionReferenceUrl? (name : String) : Option String :=
  (KnownSection.ofName? name).map KnownSection.referenceUrl

/-- The description of a section, if it has a manual page. -/
def sectionDescription? (name : String) : Option String :=
  (KnownSection.ofName? name).map KnownSection.description

end UnitLint
