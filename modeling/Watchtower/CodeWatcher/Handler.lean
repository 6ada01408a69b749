import Watchtower.CodeWatcher.Scan

/-!
# Events of the file system

`_SecurityEventHandler` reacts to a file that was modified or created.  Any exception on the way is
recorded, and the loop of `watch` raises it again: a recorded failure ends the service.

* `shouldScan` — `_should_scan`.
* `onModified`, `onCreated` — the two handlers, with what they do to the table of digests, what
  they read for the scanner, what they emit and what they record.
-/

namespace Watchtower

open Core Py

/-- `_is_ignored`. -/
def isIgnored (path : PyStr) (ignoreNames : List PyStr) : Bool :=
  (PurePath.ofStr path).parts.any fun part => ignoreNames.contains part

/-- `_should_scan`, given what `is_symlink` answers. -/
def shouldScan (settings : Settings) (path : PyStr) (symlink : Except OsError Bool) :
    Except OsError Bool :=
  if settings.codeWatcher.watchExtensions.contains (PurePath.ofStr path).suffix then
    symlink.map fun symlink => !symlink && !isIgnored path settings.codeWatcher.ignorePaths
  else .ok false

/-- An event of the file system. -/
structure FileEvent where
  isDirectory : Bool
  srcPath : PyStr

/-- What a handler records. -/
inductive HandlerFailure
  | lookup (e : OsError)
  /-- A finding could not be made. -/
  | construction (e : PyExc)
  /-- A finding could not be sent. -/
  | emission (e : PyExc)

section Handlers

variable [UnicodeData] [Sha256]

/-- `_emit_finding` on one finding after the other: those that were sent, and the exception that
stopped it. -/
def emitAll (emit : Finding → Except PyExc Unit) : List Finding → List Finding × Option PyExc
  | [] => ([], none)
  | f :: found =>
      match emit f with
      | .error e => ([], some e)
      | .ok () =>
          let (sent, e) := emitAll emit found
          (f :: sent, e)

/-- What a handler comes upon while it runs. -/
structure HandlerCalls where
  symlink : Except OsError Bool
  hashRead : SnapshotCalls
  scanRead : SnapshotCalls
  fileStamp : Stamp
  stamps : ℕ → Stamp
  emit : Finding → Except PyExc Unit

/-- What a handler has done. -/
structure HandlerEffect where
  hashes : FileHashes
  scanned : Option Bytes := none
  emitted : List Finding := []
  failure : Option HandlerFailure := none

variable [WordData] [ContentDigest] (settings : Settings) (parse : PyStr → Option (Ast .node))

/-- The report on a file that was modified. -/
def modifiedReport (path : PyStr) : Report :=
  codeReport settings path .fileModified .low (py "File Modified: " ++ (PurePath.ofStr path).name)
    (py "Monitored file changed: " ++ path) none (unitDouble 1)
    (PyTree.entries [(py "event", .str (py "modified"))])

/-- The scan a handler ends with. -/
def scanAndEmit (path : PyStr) (calls : HandlerCalls) (hashes : FileHashes) (sent : List Finding) :
    HandlerEffect :=
  let (sent', e) := emitAll calls.emit
    (scanFile settings parse calls.stamps path calls.scanRead).findings
  { hashes := hashes
    scanned := calls.scanRead.content
    emitted := sent ++ sent'
    failure := e.map .emission }

/-- `on_modified`. -/
def onModified (hashes : FileHashes) (event : FileEvent) (calls : HandlerCalls) : HandlerEffect :=
  if event.isDirectory then { hashes }
  else
    match shouldScan settings event.srcPath calls.symlink with
    | .error e => { hashes, failure := some (.lookup e) }
    | .ok false => { hashes }
    | .ok true =>
        match hasChanged maxTrackedFiles hashes event.srcPath calls.hashRead with
        | (false, hashes) => { hashes }
        | (true, hashes) =>
            match makeFinding calls.fileStamp (modifiedReport settings event.srcPath) with
            | .error e => { hashes, failure := some (.construction e) }
            | .ok f =>
                match calls.emit f with
                | .error e => { hashes, failure := some (.emission e) }
                | .ok () => scanAndEmit settings parse event.srcPath calls hashes [f]

/-- `on_created`. -/
def onCreated (hashes : FileHashes) (event : FileEvent) (calls : HandlerCalls) : HandlerEffect :=
  if event.isDirectory then { hashes }
  else
    match shouldScan settings event.srcPath calls.symlink with
    | .error e => { hashes, failure := some (.lookup e) }
    | .ok false => { hashes }
    | .ok true =>
        scanAndEmit settings parse event.srcPath calls
          (hasChanged maxTrackedFiles hashes event.srcPath calls.hashRead).2 []

end Handlers

end Watchtower
