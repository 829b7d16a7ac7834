/-
  Sift.Command — the command line: it takes a mailbox, a search and perhaps settings, each in a file
  of its own, and shows the search and the operation that each of its nodes compiles to.
-/

import Sift.Document.Mailbox
import Sift.Document.Search
import Sift.Document.Settings
import Sift.Operation.Text

namespace Sift.Command

/-- The lines that are shown, and the failure that ended them. -/
structure Report where
  lines : List String
  failure : Option String
  deriving DecidableEq

def usage : String := "usage: mailsearch <mailbox.json> <search.json> [settings.json]"

/-! ## Files -/

/-- What is in a file, or why it could not be read. -/
abbrev FileReader := String → Except String String

def readFile (files : FileReader) (path : String) : Except String String :=
  match files path with
  | .ok text => .ok text
  | .error reason => .error ("could not read " ++ path ++ ": " ++ reason)

def loadMailbox (files : FileReader) (path : String) : Except String Mailbox := do
  match (Json.read (← readFile files path)).bind Document.readMailbox with
  | some (.ok mailbox) => return mailbox
  | some (.error fault) => .error fault.message
  | none => .error "malformed mailbox description"

def loadSettings (files : FileReader) (clock : Instant) (path : String) :
    Except String Settings := do
  match (Json.read (← readFile files path)).bind (Document.readSettings clock) with
  | some settings => return settings
  | none => .error "malformed settings"

def loadSearch (files : FileReader) (searcher : Searcher) (path : String) :
    Except String Search := do
  match (Json.read (← readFile files path)).bind (Json.tree Json.depthLimit) with
  | none => .error "malformed search"
  | some tree =>
    match Document.readSearch searcher tree with
    | .ok clause => return clause
    | .error fault => .error fault.message

/-! ## Compiling -/

/-- A line for each node, up to the first that does not compile. -/
def compileEach (mailbox : Mailbox) (settings : Settings) : List Node → Report
  | [] => ⟨[], none⟩
  | node :: rest =>
    match node.compile mailbox settings true with
    | .ok operation =>
      let report := compileEach mailbox settings rest
      { report with lines := ("  " ++ node.write ++ "  =>  " ++ operation.text) :: report.lines }
    | .error fault => ⟨[], some (node.write ++ ": " ++ fault.message)⟩

structure Request where
  mailboxPath : String
  searchPath : String
  settingsPath : Option String

def readArguments : List String → Option Request
  | [mailbox, search] => some ⟨mailbox, search, none⟩
  | [mailbox, search, settings] => some ⟨mailbox, search, some settings⟩
  | _ => none

/-- What a request asks for. The first of its files that cannot be used is the failure, the search
    being looked at last. -/
def load (files : FileReader) (clock : Instant) (request : Request) :
    Except String (Mailbox × Settings × Search) := do
  let mailbox ← loadMailbox files request.mailboxPath
  let settings ←
    match request.settingsPath with
    | some path => loadSettings files clock path
    | none => .ok (.standard clock)
  return (mailbox, settings, ← loadSearch files ⟨mailbox.account, settings⟩ request.searchPath)

def run (files : FileReader) (clock : Instant) (arguments : List String) : Report :=
  match readArguments arguments with
  | none => ⟨[], some usage⟩
  | some request =>
    match load files clock request with
    | .error failure => ⟨[], some failure⟩
    | .ok (mailbox, settings, clause) =>
      let report := compileEach mailbox settings clause.leaves
      { report with lines := clause.write :: report.lines }

end Sift.Command
