/-!
# Built-in descriptions

Short descriptions of settings in HTML, to be shown while one is typed in.
-/

namespace UnitLint.Asset

/-- Settings and their descriptions. -/
def blurbs : List ((String × String) × String) := [
  (("Install", "WantedBy"),
    "<p>This option may be used more than once, or a space-separated list of unit names " ++
    "may be given. A symbolic link is created in the <code>.wants/</code> directory of " ++
    "each of the listed units when this unit is installed by <b>systemctl enable</b>.</p>\n"),
  (("Service", "KillMode"),
    "<p>Specifies how processes of this unit shall be killed. One of " ++
    "<code>control-group</code>, <code>mixed</code>, <code>process</code>, " ++
    "<code>none</code>. Defaults to <code>control-group</code>.</p>\n"),
  (("Service", "Restart"),
    "<p>Configures whether the service shall be restarted when the service process exits, " ++
    "is killed, or a timeout is reached. Takes one of <code>no</code>, " ++
    "<code>on-success</code>, <code>on-failure</code>, <code>on-abnormal</code>, " ++
    "<code>on-watchdog</code>, <code>on-abort</code>, or <code>always</code>. Defaults to " ++
    "<code>no</code>.</p>\n"),
  (("Service", "Type"),
    "<p>Configures the mechanism via which the service notifies the manager that the " ++
    "service start-up has finished. One of <code>simple</code>, <code>exec</code>, " ++
    "<code>forking</code>, <code>oneshot</code>, <code>dbus</code>, <code>notify</code>, " ++
    "<code>notify-reload</code> or <code>idle</code>.</p>\n"),
  (("Socket", "SocketMode"),
    "<p>If listening on a file system socket or FIFO, this option specifies the file " ++
    "system access mode used when creating the file node. Takes an access mode in octal " ++
    "notation. Defaults to <code>0666</code>.</p>\n"),
  (("Unit", "Description"),
    "<p>A short human readable title of the unit. This may be used by systemd (and other " ++
    "UIs) as a user-visible label for the unit, so this string should identify the unit " ++
    "rather than describe it.</p>\n"),
  (("Unit", "Documentation"),
    "<p>A space-separated list of URIs referencing documentation for this unit or its " ++
    "configuration. Accepted are only URIs of the types <code>http://</code>, " ++
    "<code>https://</code>, <code>file:</code>, <code>info:</code>, <code>man:</code>. If " ++
    "the empty string is assigned to this option, the list is reset and all prior " ++
    "assignments will have no effect.</p>\n")]

end UnitLint.Asset
