import GuidedShell.Script.Octets

/-! The settings of a script runner. -/
namespace GuidedShell.Script

inductive Setting where
  | errexit
  | noglob
  | ignoreeof
  | interactive
  | monitor
  | noexec
  | stdin
  | xtrace
  | verbose
  | vi
  | emacs
  | noclobber
  | allexport
  | notify
  | nounset
  | privileged
  | nolog
  | debug
  deriving DecidableEq

namespace Setting

/-- All settings, their names, and the letters that most of them have. -/
def table : List (Setting × String × Option Char) :=
  [(errexit, "errexit", 'e'), (noglob, "noglob", 'f'), (ignoreeof, "ignoreeof", 'I'),
    (interactive, "interactive", 'i'), (monitor, "monitor", 'm'), (noexec, "noexec", 'n'),
    (stdin, "stdin", 's'), (xtrace, "xtrace", 'x'), (verbose, "verbose", 'v'), (vi, "vi", 'V'),
    (emacs, "emacs", 'E'), (noclobber, "noclobber", 'C'), (allexport, "allexport", 'a'),
    (notify, "notify", 'b'), (nounset, "nounset", 'u'), (privileged, "privileged", 'p'),
    (nolog, "nolog", none), (debug, "debug", none)]

def ofLetter? (c : Char) : Option Setting :=
  table.findSome? fun (s, _, letter) => if letter = some c then some s else none

def ofName? (name : Octets) : Option Setting :=
  table.findSome? fun (s, n, _) => if n.toList = name then some s else none

end Setting

abbrev Settings := List Setting

namespace Settings

def isOn (on : Settings) (s : Setting) : Bool := on.contains s

/-- Switch a setting. The two ways to edit lines exclude each other. -/
def switch (on : Settings) (s : Setting) (value : Bool) : Settings :=
  let others := on.filter (· != s)
  if !value then others
  else s :: match s with
    | .vi => others.filter (· != .emacs)
    | .emacs => others.filter (· != .vi)
    | _ => others

/-- The letters of the settings that are on, last one of the table first. -/
def letters (on : Settings) : Octets :=
  Setting.table.reverse.filterMap fun (s, _, letter) => if on.isOn s then letter else none

/-- The settings for a reader. -/
def listing (on : Settings) : Octets :=
  "Current option settings\n".toList ++ Setting.table.flatMap fun (s, name, _) =>
    name.toList ++ List.replicate (16 - name.length) ' ' ++
      (if on.isOn s then "on\n" else "off\n").toList

/-- The commands that bring the settings about. -/
def commands (on : Settings) : Octets :=
  Setting.table.flatMap fun (s, name, _) =>
    (if on.isOn s then "set -o " else "set +o ").toList ++ name.toList ++ ['\n']

end Settings

end GuidedShell.Script
