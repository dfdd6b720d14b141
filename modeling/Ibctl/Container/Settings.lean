import Mathlib.Algebra.Group.Int.Defs
import Ibctl.Lib.Files

/-! The container's storage as the maintenance script treats it: the settings directories,
their encrypted backups and the two files through which the supervisor talks to the script.
A start restores after a recycle; while the container runs, a loop backs up each time the
settings were marked good. -/
namespace Ibctl.Container
open Files

/-- An encrypted archive; its time of modification is in nanoseconds. -/
structure Backup where
  name : String
  mtime : Int
  archive : Directory

structure Storage where
  settings : String → Option Directory
  backups : List Backup
  recycleMarker : Bool
  /-- The time of modification of the settings-good marker, in seconds. -/
  goodMarker : Option Int

def components (path : String) : List (List Char) := path.toList.splitOn '/'

def basename (path : String) : String :=
  String.ofList (((components path).filter (fun part => part ≠ [])).getLast?.getD ['/'])

/-- The patterns left out of an archive; a path is relative to its settings directory. -/
def excluded (path : String) : Bool :=
  let parts := components path
  parts.head? = some "ibgateway".toList || parts.head? = some "launcher.log".toList ||
    parts.any (fun part => ".log".toList.isSuffixOf part) || parts.contains "language.jar".toList

def archiveOf (files : Directory) : Directory :=
  fun path => if excluded path then .absent else files path

def settingsDirs (root : String) (s : Storage) : List String :=
  [root,root ++ "_live",root ++ "_paper"].filter (fun dir => (s.settings dir).isSome)

def backupName (base stamp : String) : String := base ++ "-" ++ stamp ++ ".tar.enc"

/-- A move into place replaces a backup of the same name. -/
def putBackup (backups : List Backup) (backup : Backup) : List Backup :=
  backup :: backups.filter (fun other => other.name ≠ backup.name)

def backupDir (stamp : String) (mtime : String → Int) (s : Storage) (dir : String) : Storage :=
  match s.settings dir with
  | none => s
  | some files =>
    { s with backups := putBackup s.backups
              ⟨backupName (basename dir) stamp,mtime dir,archiveOf files⟩ }

def backupSettings (root stamp : String) (mtime : String → Int) (s : Storage) : Storage :=
  (settingsDirs root s).foldl (backupDir stamp mtime) s

def matchesBase (base name : String) : Bool :=
  let stem := (base ++ "-").toList
  stem.isPrefixOf name.toList && ".tar.enc".toList.isSuffixOf (name.toList.drop stem.length)

/-- The order of `sort -nr`: by time, and by the rest of the line where the times agree. -/
def later (a b : Backup) : Backup :=
  if a.mtime < b.mtime ∨ (a.mtime = b.mtime ∧ a.name < b.name) then b else a

def newest (base : String) (backups : List Backup) : Option Backup :=
  (backups.filter (fun backup => matchesBase base backup.name)).foldl
    (fun best backup => some ((best.map (fun b => later b backup)).getD backup)) none

/-- Unpacking writes the archived files over the present ones and leaves the others. -/
def restoreDir (backups : List Backup) (dir : String) (files : Directory) : Directory :=
  match newest (basename dir) backups with
  | none => files
  | some backup => overlay backup.archive files

def restoreSettings (root : String) (s : Storage) : Storage :=
  { s with settings := fun dir =>
              if dir ∈ settingsDirs root s then (s.settings dir).map (restoreDir s.backups dir)
              else s.settings dir }

def isLog (path : String) : Bool :=
  ".log".toList.isSuffixOf path.toList || ".trace".toList.isSuffixOf path.toList

def dropLogs (expired : String → Bool) (files : Directory) : Directory :=
  fun path => if isLog path && expired path then .absent else files path

/-- Whole days between two times in nanoseconds, as `find -mtime` counts them. -/
def ageDays (now mtime : Int) : Int := (now - mtime) / (86400 * 10 ^ 9)

/-- Which logs have expired is read from their times, which nothing else looks at. -/
def cleanupStorage (root : String) (retentionDays now : Int) (expired : String → String → Bool)
    (s : Storage) : Storage :=
  { s with
    settings := fun dir =>
      if root.toList.isPrefixOf dir.toList then (s.settings dir).map (dropLogs (expired dir))
      else s.settings dir
    backups := s.backups.filter (fun backup => ageDays now backup.mtime ≤ retentionDays) }

def startup (root : String) (retentionDays now : Int) (expired : String → String → Bool)
    (s : Storage) : Storage :=
  let restored := if s.recycleMarker then { restoreSettings root s with recycleMarker := false }
    else s
  cleanupStorage root retentionDays now expired restored

structure Maintenance where
  lastGoodMtime : Int
  lastCleanup : Int
deriving DecidableEq, Repr

structure PassInput where
  now : Int
  stamp : String
  mtime : String → Int
  expired : String → String → Bool

structure Host where
  storage : Storage
  loop : Maintenance

variable (root : String) (retentionDays : Int)

def Host.cleanup (h : Host) (input : PassInput) : Host :=
  if input.now - h.loop.lastCleanup ≥ 21600 then
    { storage := cleanupStorage root retentionDays (input.now * 10 ^ 9) input.expired h.storage
      loop := { h.loop with lastCleanup := input.now } }
  else h

def Host.backsUp (h : Host) : Option Int :=
  h.storage.goodMarker.filter (fun current => h.loop.lastGoodMtime < current)

def Host.backup (h : Host) (input : PassInput) : Host :=
  match h.backsUp with
  | none => h
  | some current =>
    { storage := backupSettings root input.stamp input.mtime h.storage
      loop := { h.loop with lastGoodMtime := current } }

def Host.pass (h : Host) (input : PassInput) : Host :=
  (h.cleanup root retentionDays input).backup root input

/-- The script at the start of a container: `--startup`, and then the loop from its initial
variables. -/
def Host.start (h : Host) (now : Int) (expired : String → String → Bool) : Host where
  storage := startup root retentionDays now expired h.storage
  loop := ⟨0,0⟩

end Ibctl.Container
