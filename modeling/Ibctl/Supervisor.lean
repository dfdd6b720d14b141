import Mathlib.Data.List.Nodup
import Ibctl.Lib.Words

/-! The supervisor of one JVM: the command line it launches, and the sweep before the launch that
kills what an earlier supervisor left behind for the same config directory. -/
namespace Ibctl.Supervisor

inductive GatewayProgram where
  | gateway
  | tws
deriving DecidableEq, Repr

structure GatewayConfig where
  program : GatewayProgram
  twsPath : String
  settingsPath : String
  javaHeapMb : Nat

def gatewayMainClass : String := "ibgateway.GWClient"

def twsMainClass : String := "jclient.LoginFrame"

/-- JDK 17 module access for Swing introspection. -/
def moduleAccessFlags : List String :=
  ["--add-opens=java.base/java.util=ALL-UNNAMED",
    "--add-opens=java.base/java.util.concurrent=ALL-UNNAMED",
    "--add-exports=java.base/sun.util=ALL-UNNAMED",
    "--add-exports=java.desktop/com.sun.java.swing.plaf.motif=ALL-UNNAMED",
    "--add-opens=java.desktop/java.awt=ALL-UNNAMED",
    "--add-opens=java.desktop/java.awt.dnd=ALL-UNNAMED",
    "--add-opens=java.desktop/javax.swing=ALL-UNNAMED",
    "--add-opens=java.desktop/javax.swing.event=ALL-UNNAMED",
    "--add-opens=java.desktop/javax.swing.plaf.basic=ALL-UNNAMED",
    "--add-opens=java.desktop/javax.swing.table=ALL-UNNAMED",
    "--add-opens=java.desktop/sun.awt=ALL-UNNAMED",
    "--add-exports=java.desktop/sun.awt.X11=ALL-UNNAMED",
    "--add-exports=java.desktop/sun.swing=ALL-UNNAMED",
    "--add-exports=javafx.graphics/com.sun.javafx.application=ALL-UNNAMED",
    "--add-opens=jdk.management/com.sun.management.internal=ALL-UNNAMED"]

def GatewayConfig.mainClass (config : GatewayConfig) : String :=
  match config.program with
  | .tws => twsMainClass
  | .gateway => gatewayMainClass

/-- The settings path, or else the path of the installation. -/
def GatewayConfig.configDir (config : GatewayConfig) : String :=
  if config.settingsPath = "" then config.twsPath else config.settingsPath

def marker (configDir : String) : String := "-DjtsConfigDir=" ++ configDir

/-- What the launch finds on the machine and in the environment. -/
structure Installation where
  java : String
  classpath : String
  vmOptions : List String
  agentJar : String
  agentSocket : String
  atspiEnabled : Bool
  atspiNativeDir : Option String

def atspiArgs (found : Installation) : List String :=
  let wrapper := Text.containsText found.classpath "java-atk-wrapper" || Text.containsText found.classpath "jayatk"
  match found.atspiNativeDir with
  | some dir =>
    if found.atspiEnabled && wrapper then
      ["-Djava.library.path=" ++ dir,
        "-Djavax.accessibility.assistive_technologies=org.GNOME.Accessibility.AtkWrapper",
        "-Djavax.accessibility.screen_magnifier_present=true"]
    else []
  | none => []

/-- The argument vector of `launch_with_restart`. -/
def launchArgs (config : GatewayConfig) (found : Installation) (autorestartPath : Option String) : List String :=
  [found.java] ++ moduleAccessFlags ++ ["-cp",found.classpath] ++
    ["-javaagent:" ++ found.agentJar ++ "=" ++ found.agentSocket] ++ found.vmOptions ++
    ["-Xmx" ++ toString config.javaHeapMb ++ "m",marker config.configDir,
      "-Dtwslaunch.autoupdate.serviceImpl=com.ib.tws.twslaunch.install4j.Install4jAutoUpdateService",
      "-Dchannel=latest","-Djdk.xml.elementAttributeLimit=1000","-Dexe4j.isInstall4j=true",
      "-DinstallType=standalone"] ++
    atspiArgs found ++ (autorestartPath.map ("-Drestart=" ++ ·)).toList ++ [config.mainClass]

section Table

def nul : Char := Char.ofNat 0

/-- An argument of a process: a text without a NUL, or bytes that are no UTF-8. -/
inductive Argument where
  | text (s : String) (plain : nul ∉ s.toList)
  | bytes

def Argument.text? : Argument → Option String
  | text s _ => some s
  | bytes => none

structure Process where
  pid : Nat
  args : List Argument

/-- The arguments as `/proc` shows them, each with a NUL behind it, and blanks for those; nothing
where they cannot be read as a text. -/
def Process.cmdline (p : Process) : Option (List Char) :=
  (p.args.mapM Argument.text?).map fun texts =>
    (texts.flatMap fun s => s.toList ++ [nul]).map fun c => if c = nul then ' ' else c

/-- A pid names one process. -/
def ProcessTable := {table : List Process // (table.map Process.pid).Nodup}

/-- The test of `kill_orphan_gateways`. -/
def isOrphan (config : GatewayConfig) (p : Process) : Bool :=
  match p.cmdline with
  | none => false
  | some cmdline =>
    Text.containsChars cmdline gatewayMainClass.toList &&
      Text.containsChars cmdline (marker config.configDir).toList

/-- The pids that get a SIGKILL before a launch. -/
def killOrphanGateways (config : GatewayConfig) (child : Option Nat) (table : ProcessTable) : List Nat :=
  (table.1.filter fun p => decide (child ≠ some p.pid) && isOrphan config p).map Process.pid

/-- Some argument is the directory's and some is a main class. -/
def LaunchedFor (configDir : String) (p : Process) : Prop :=
  some (marker configDir) ∈ p.args.map Argument.text? ∧
    (some gatewayMainClass ∈ p.args.map Argument.text? ∨ some twsMainClass ∈ p.args.map Argument.text?)

/-- Just the JVMs of the directory are killed, but for the tracked child. -/
def Exact (config : GatewayConfig) (child : Option Nat) (table : ProcessTable) : Prop :=
  ∀ p ∈ table.1, p.pid ∈ killOrphanGateways config child table ↔
    child ≠ some p.pid ∧ LaunchedFor config.configDir p

/-- The text stands somewhere in the joined arguments. -/
def Mentions (p : Process) (s : String) : Prop := ∃ cmdline, p.cmdline = some cmdline ∧ s.toList <:+: cmdline

/-- It has both texts somewhere, but not as its arguments. -/
def Struck (configDir : String) (p : Process) : Prop :=
  Mentions p gatewayMainClass ∧ Mentions p (marker configDir) ∧ ¬ LaunchedFor configDir p

/-- A JVM of the directory that runs TWS, or that has bytes among its arguments. -/
def Missed (configDir : String) (p : Process) : Prop :=
  LaunchedFor configDir p ∧ ¬ Mentions p gatewayMainClass

end Table

section Sweep

variable {config : GatewayConfig} {child : Option Nat} {table : ProcessTable} {p : Process}

theorem mapM_some {α β : Type} {f : α → Option β} {list : List α} {results : List β}
    (read : list.mapM f = some results) : list.map f = results.map some := by
  induction list generalizing results with
  | nil =>
    obtain rfl : results = [] := by simpa using read.symm
    rfl
  | cons a rest ih =>
    rw [List.mapM_cons] at read
    obtain ⟨b,first,read⟩ := Option.bind_eq_some_iff.mp read
    obtain ⟨others,later,read⟩ := Option.bind_eq_some_iff.mp read
    obtain rfl := Option.some.inj read
    rw [List.map_cons,first,ih later]
    rfl

/-- Behind each argument stands a blank, and there is no NUL in it that would become one. -/
theorem cmdline_mentions {cmdline : List Char} (shown : p.cmdline = some cmdline) {s : String}
    (among : some s ∈ p.args.map Argument.text?) : s.toList <:+: cmdline := by
  obtain ⟨argument,-,is_text⟩ := List.mem_map.mp among
  have plain : nul ∉ s.toList := by
    cases argument with
    | text other plain =>
      obtain rfl := Option.some.inj is_text
      exact plain
    | bytes => cases is_text
  have kept : s.toList.map (fun c => if c = nul then ' ' else c) = s.toList := by
    have each : ∀ c ∈ s.toList, (if c = nul then ' ' else c) = id c := by
      intro c there
      refine if_neg fun same => plain ?_
      rwa [← same]
    rw [List.map_congr_left each,List.map_id]
  unfold Process.cmdline at shown
  obtain ⟨texts,read,rfl⟩ := Option.map_eq_some_iff.mp shown
  rw [mapM_some read] at among
  have there : s ∈ texts := by simpa using among
  obtain ⟨front,back,rfl⟩ := List.append_of_mem there
  rw [List.flatMap_append,List.flatMap_cons,List.map_append,List.map_append,List.map_append,kept]
  have parts {before blank after : List Char} : s.toList <:+: before ++ (s.toList ++ blank ++ after) :=
    ⟨before,blank ++ after,by simp only [List.append_assoc]⟩
  exact parts

theorem isOrphan_iff : isOrphan config p = true ↔
    Mentions p gatewayMainClass ∧ Mentions p (marker config.configDir) := by
  unfold isOrphan Mentions
  cases p.cmdline with
  | none => simp
  | some cmdline => simp [Text.containsChars_iff]

theorem mem_killed_iff (among : p ∈ table.1) :
    p.pid ∈ killOrphanGateways config child table ↔ child ≠ some p.pid ∧ isOrphan config p = true := by
  unfold killOrphanGateways
  constructor
  · intro killed
    obtain ⟨other,found,same⟩ := List.mem_map.mp killed
    obtain ⟨there,tested⟩ := List.mem_filter.mp found
    obtain rfl := List.inj_on_of_nodup_map table.2 there among same
    simpa using tested
  · rintro ⟨other,orphan⟩
    exact List.mem_map.mpr ⟨p,List.mem_filter.mpr ⟨among,by simp [other,orphan]⟩,rfl⟩

/-- The arguments that the supervisor builds are those of a JVM of its directory. -/
theorem launchArgs_launched {found : Installation} {autorestartPath : Option String}
    (launched : p.args.map Argument.text? = (launchArgs config found autorestartPath).map some) :
    LaunchedFor config.configDir p := by
  unfold LaunchedFor
  rw [launched]
  have main : some config.mainClass ∈ (launchArgs config found autorestartPath).map some := by
    unfold launchArgs
    simp
  refine ⟨?_,?_⟩
  · unfold launchArgs
    simp
  · unfold GatewayConfig.mainClass at main
    split at main
    · exact .inr main
    · exact .inl main

/-- The sweep is exact just when no other process merely mentions the directory and the class of
the Gateway, and no JVM of the directory lacks that class in its command line. -/
theorem kill_orphan_gateways_exact_iff (config : GatewayConfig) (child : Option Nat)
    (table : ProcessTable) :
    Exact config child table ↔
      ∀ p ∈ table.1, child ≠ some p.pid → ¬ Struck config.configDir p ∧ ¬ Missed config.configDir p := by
  unfold Exact
  refine forall₂_congr fun p among => ?_
  rw [mem_killed_iff among,isOrphan_iff,and_congr_right_iff]
  refine forall_congr' fun other => ?_
  have dir_mentioned (launched : LaunchedFor config.configDir p) (mentions : Mentions p gatewayMainClass) :
      Mentions p (marker config.configDir) := by
    obtain ⟨cmdline,shown,-⟩ := mentions
    exact ⟨cmdline,shown,cmdline_mentions shown launched.1⟩
  unfold Struck Missed
  constructor
  · intro same
    exact ⟨fun struck => struck.2.2 (same.mp ⟨struck.1,struck.2.1⟩),
      fun missed => missed.2 (same.mpr missed.1).1⟩
  · rintro ⟨spared,found⟩
    constructor
    · rintro ⟨main,dir⟩
      by_contra other
      exact spared ⟨main,dir,other⟩
    · intro launched
      by_contra unmentioned
      refine found ⟨launched,fun main => unmentioned ⟨main,dir_mentioned launched main⟩⟩

/-- Another instance's JVM, whose directory starts with this one, and a TWS of this directory. -/
def sampleTable : ProcessTable :=
  ⟨[⟨41,[.text "java" (by decide),.text "-DjtsConfigDir=/home/ibgateway/Jts_paper" (by decide),
      .text "ibgateway.GWClient" (by decide)]⟩,
    ⟨42,[.text "java" (by decide),.text "-DjtsConfigDir=/home/ibgateway/Jts" (by decide),
      .text "jclient.LoginFrame" (by decide)]⟩],by decide⟩

theorem sample_sweep :
    let config : GatewayConfig := ⟨.tws,"/home/ibgateway/Jts","",768⟩
    killOrphanGateways config none sampleTable = [41] ∧ ¬ Exact config none sampleTable := by
  have killed : killOrphanGateways ⟨.tws,"/home/ibgateway/Jts","",768⟩ none sampleTable = [41] := by
    decide +kernel
  refine ⟨killed,fun exact_ => ?_⟩
  have alive := (exact_ _ (List.mem_cons_of_mem _ List.mem_cons_self)).mpr
    ⟨nofun,by decide +kernel,.inr (by decide +kernel)⟩
  rw [killed] at alive
  simp at alive

end Sweep

end Ibctl.Supervisor
