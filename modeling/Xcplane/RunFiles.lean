import Xcplane.LatestBackup
import Xcplane.Lib.Occurrence
import Xcplane.NameSuggestions
import Xcplane.RebasePlan
import Xcplane.Stamps

/-!
The files of an Ansible run and the hosts that it is played on: two runs share no file unless
they perform the same actions on the same server, and a run is played on its own server unless
the name of the server means something else to Ansible.
-/

namespace Xcplane.RunFiles

open Xcplane.Types
open Xcplane.Lib
open Xcplane.RebaseDiff
open Xcplane.Deploy
open Xcplane.RebasePlan
open Xcplane.Naming
open Xcplane.Stamps

section Tasks

def taskname : AnsibleAction → String
  | .PortsCheck => "check_ports.yaml"
  | .DnsReset => "dns_reset.yaml"
  | .Basics => "basics_install.yaml"
  | .CloudflareDel => "cloudflare_del.yaml"
  | .Cloudflare => "cloudflare_setup.yaml"
  | .Acme => "acme_get_cert.yaml"
  | .SSH => "ssh_setup.yaml"
  | .Nginx => "nginx_setup.yaml"
  | .DoH => "doh_setup.yaml"
  | .Bootstrap => "bootstrap.yaml"
  | .Firewall => "firewall.yaml"
  | .FirewallBootstrap => "firewall_bootstrap.yaml"
  | .OutblockedUpdate => "outblocked_update.yaml"
  | .Fail2ban => "fail2ban_setup.yaml"
  | .BaseSetup => "base_setup.yaml"
  | .FullSetup => "full_setup.yaml"
  | .XuiAuth => "xui_auth.yaml"
  | .AddInbound => "xui_add_inbound.yaml"
  | .DelInbound => "xui_del_inbound.yaml"
  | .PanelSettings => "xui_setup_panel.yaml"
  | .NginxRestart => "nginx_restart.yaml"
  | .NginxRestoreConfig => "nginx_restore_config.yaml"
  | .XrayRestart => "xui_restart.yaml"
  | .XrayRestoreDB => "xui_restore_db.yaml"
  | .DestroyServer => "destroy_server.yaml"

def all : List AnsibleAction :=
  [.PortsCheck, .DnsReset, .Basics, .CloudflareDel, .Cloudflare, .Acme, .Nginx, .DoH,
    .FirewallBootstrap, .OutblockedUpdate, .BaseSetup, .FullSetup, .NginxRestart,
    .NginxRestoreConfig, .XrayRestart, .XrayRestoreDB, .Bootstrap, .XuiAuth, .DelInbound,
    .AddInbound, .PanelSettings, .Fail2ban, .Firewall, .SSH, .DestroyServer]

def allTaskfiles : List String :=
  all.map taskname

/-- The check of the task files when the daemon starts, with those seen so far. -/
def checkTaskfiles (isFile readable : String → Bool) (seen : List String) :
    List String → Except BoxError Unit
  | [] => .ok ()
  | filename :: rest => do
      ensure (!seen.contains filename) "The tasks filenames are not unique."
      ensure (!filename.isEmpty && isFile filename)
        ("The path for task '" ++ filename ++ "' is invalid or doesn't exist.")
      ensure (readable filename) ("The path for task '" ++ filename ++ "' is not readable.")
      checkTaskfiles isFile readable (filename :: seen) rest

def validate (isFile readable : String → Bool) : Except BoxError Unit :=
  checkTaskfiles isFile readable [] allTaskfiles

structure AnsibleTasks where
  tasks : List String
  id : String

def taskGen (actions : List AnsibleAction) : AnsibleTasks where
  tasks := actions.map taskname
  id := "_".intercalate (actions.map fun a => Nat.repr a.id)

end Tasks

section Files

/-- A file of a run, in the directory of its server or among the logs. -/
inductive RunFile
  | data (server filename : String)
  | log (filename : String)
  deriving DecidableEq, Repr

/-- The format `%Y_%m_%d_%H_%M_%S`. -/
def logTime (t : Stamp) : String :=
  .ofList (padded 4 t.year ++ '_' :: (padded 2 t.month ++ '_' :: (padded 2 t.day ++ '_' ::
    (padded 2 t.hour ++ '_' :: (padded 2 t.minute ++ '_' :: padded 2 t.second)))))

variable (run : AnsibleRun)

/-- What the names of the files begin with. The actions of a run are put in order first. -/
def runName : String :=
  run.server.name ++ "-" ++ (taskGen (sortUnique run.actions)).id ++ "-"

def inventoryPath : RunFile :=
  .data run.server.name (runName run ++ "inventory.json")

def ansibleVarsPath : RunFile :=
  .data run.server.name (runName run ++ "general_vars.yaml")

def stdoutPath (now : Stamp) : RunFile :=
  .log (runName run ++ logTime now ++ "-ansible-stdout.log")

def stderrPath (now : Stamp) : RunFile :=
  .log (runName run ++ logTime now ++ "-ansible-stderr.log")

/-- The time is asked for once for each of the two logs. -/
def paths (now later : Stamp) : List RunFile :=
  [inventoryPath run, ansibleVarsPath run, stdoutPath run now, stderrPath run later]

end Files

section Inventory

abbrev Inventory := String → Option AnsibleConn

/-- The controller itself. -/
def localhost : AnsibleConn where
  ansibleHost := none
  ansiblePort := none
  ansibleUser := none
  ansibleConnection := some "local"

/-- The hosts of the inventory file. -/
def inventory (server : KetServer) (conn : AnsibleConn) : Inventory :=
  Function.update (Function.update (fun _ => none) server.name (some conn)) "localhost"
    (some localhost)

end Inventory

section Play

/-- The names that Ansible gives a meaning of its own: two groups that every inventory has, and
the controller. -/
def meaningful : List String :=
  ["all", "ungrouped", "localhost"]

/-- What is relied on of Ansible. The playbook is for the hosts that the name of the server
selects: the group of that name or, where there is none, the host. An inventory that makes no
groups has the two groups of every inventory, and all its hosts are in both. -/
structure Patterns where
  Selects : Inventory → String → String → Prop
  group : ∀ hosts host group, group = "all" ∨ group = "ungrouped" →
    (Selects hosts group host ↔ hosts host ≠ none)
  host : ∀ hosts host name, isProper name = true → name ≠ "all" → name ≠ "ungrouped" →
    (Selects hosts name host ↔ host = name ∧ hosts host ≠ none)

end Play

section Names

variable {a b : AnsibleAction} {actions actions' : List AnsibleAction}

theorem mem_all (a : AnsibleAction) : a ∈ all := by
  cases a <;> decide

theorem allTaskfiles_nodup : allTaskfiles.Nodup := by
  decide +kernel

/-- The check only depends on the files: their names differ and none is empty. -/
theorem validate_eq_ok_iff {isFile readable : String → Bool} :
    validate isFile readable = .ok () ↔
      ∀ a, isFile (taskname a) = true ∧ readable (taskname a) = true := by
  have hcheck : ∀ (filenames seen : List String), filenames.Nodup →
      (∀ f ∈ filenames, f ∉ seen ∧ f.isEmpty = false) →
      (checkTaskfiles isFile readable seen filenames = .ok () ↔
        ∀ f ∈ filenames, isFile f = true ∧ readable f = true) := by
    intro filenames
    induction filenames with
    | nil => simp [checkTaskfiles]
    | cons f rest ih =>
        intro seen hnodup hfresh
        obtain ⟨hf, hrest⟩ := List.nodup_cons.mp hnodup
        obtain ⟨⟨hseen, hempty⟩, hothers⟩ := List.forall_mem_cons.mp hfresh
        have hfresh' : ∀ g ∈ rest, g ∉ f :: seen ∧ g.isEmpty = false := by
          intro g hg
          refine ⟨?_, (hothers g hg).2⟩
          intro hmem
          rcases List.mem_cons.mp hmem with rfl | hmem
          · exact hf hg
          · exact (hothers g hg).1 hmem
        have hih := ih (f :: seen) hrest hfresh'
        rw [List.forall_mem_cons, ← hih]
        simp [checkTaskfiles, ensure_bind_eq_ok_iff, hseen, hempty, and_assoc]
  have hnonempty : ∀ f ∈ allTaskfiles, f ∉ [] ∧ f.isEmpty = false := by
    decide +kernel
  rw [validate, hcheck allTaskfiles [] allTaskfiles_nodup hnonempty, allTaskfiles,
    List.forall_mem_map]
  exact ⟨fun h a => h a (mem_all a), fun h a _ => h a⟩

theorem id_injective : Function.Injective AnsibleAction.id := by
  intro a b h
  have hnodup : (all.map AnsibleAction.id).Nodup := by decide
  exact List.inj_on_of_nodup_map hnodup (mem_all a) (mem_all b) h

theorem repr_id_injective : Function.Injective fun a : AnsibleAction => (Nat.repr a.id).toList := by
  intro a b h
  have hdigits : Nat.toDigits 10 a.id = Nat.toDigits 10 b.id := by
    simpa [Nat.repr] using h
  apply id_injective
  calc a.id = Nat.ofDigitChars 10 (Nat.toDigits 10 a.id) 0 := Nat.ofDigitChars_ten_toDigits.symm
    _ = Nat.ofDigitChars 10 (Nat.toDigits 10 b.id) 0 := by rw [hdigits]
    _ = b.id := Nat.ofDigitChars_ten_toDigits

theorem isDigit_of_mem_repr {n : Nat} {c : Char} (h : c ∈ (Nat.repr n).toList) :
    c.isDigit = true := by
  rw [Nat.repr, String.toList_ofList] at h
  exact Nat.isDigit_of_mem_toDigits (by decide) (by decide) h

theorem toList_taskGen_id : (taskGen actions).id.toList =
    ['_'].intercalate (actions.map fun a => (Nat.repr a.id).toList) := by
  rw [taskGen, String.toList_intercalate, List.map_map]
  rfl

/-- The actions can be read back from the ID. -/
theorem taskGen_id_injective (h : (taskGen actions).id = (taskGen actions').id) :
    actions = actions' := by
  have hplain : ∀ (l : List AnsibleAction), ∀ cs ∈ l.map fun a => (Nat.repr a.id).toList,
      '_' ∉ cs := by
    intro l cs hcs hmem
    obtain ⟨a, -, rfl⟩ := List.mem_map.mp hcs
    exact absurd (isDigit_of_mem_repr hmem) (by decide)
  have hnonempty : ∀ l : List AnsibleAction, l ≠ [] →
      ['_'].intercalate (l.map fun a => (Nat.repr a.id).toList) ≠ [] := by
    intro l hl
    cases l with
    | nil => exact absurd rfl hl
    | cons a rest =>
        intro hnil
        have hsplit := List.splitOn_intercalate '_' (hplain (a :: rest)) (List.cons_ne_nil _ _)
        rw [hnil] at hsplit
        have hhead := congrArg List.head? hsplit
        simp [Nat.repr] at hhead
  have htext := congrArg String.toList h
  rw [toList_taskGen_id, toList_taskGen_id] at htext
  by_cases hl : actions = []
  · by_cases hl' : actions' = []
    · rw [hl, hl']
    · rw [hl] at htext
      exact absurd htext.symm (hnonempty actions' hl')
  · by_cases hl' : actions' = []
    · rw [hl'] at htext
      exact absurd htext (hnonempty actions hl)
    · have hsplit := congrArg (List.splitOn '_') htext
      rw [List.splitOn_intercalate '_' (hplain actions) (by simpa using hl),
        List.splitOn_intercalate '_' (hplain actions') (by simpa using hl')] at hsplit
      exact repr_id_injective.list_map hsplit

end Names

section Paths

variable {run run' : AnsibleRun} {now later now' later' : Stamp} {file : RunFile}

def RunFile.filename : RunFile → String
  | .data _ filename => filename
  | .log filename => filename

theorem dash_notMem_of_isProper {name : String} (h : isProper name = true) :
    '-' ∉ name.toList := by
  intro hmem
  simp only [isProper, Bool.and_eq_true, List.all_eq_true] at h
  exact absurd (h.2 _ hmem) (by decide)

theorem dash_notMem_id (actions : List AnsibleAction) : '-' ∉ (taskGen actions).id.toList := by
  rw [toList_taskGen_id]
  intro hmem
  rcases mem_intercalate hmem with h | ⟨cs, hcs, hmem⟩
  · exact absurd h (by decide)
  · obtain ⟨a, -, rfl⟩ := List.mem_map.mp hcs
    exact absurd (isDigit_of_mem_repr hmem) (by decide)

/-- Every file of a run bears the name of the server and the ID of the actions. -/
theorem exists_filename (h : file ∈ paths run now later) :
    ∃ rest, file.filename = runName run ++ rest := by
  simp only [paths, List.mem_cons, List.not_mem_nil, or_false] at h
  rcases h with rfl | rfl | rfl | rfl
  · exact ⟨_, rfl⟩
  · exact ⟨_, rfl⟩
  · exact ⟨_, String.append_assoc ..⟩
  · exact ⟨_, String.append_assoc ..⟩

theorem toList_runName_append (rest : String) : (runName run ++ rest).toList =
    run.server.name.toList ++
      '-' :: ((taskGen (sortUnique run.actions)).id.toList ++ '-' :: rest.toList) := by
  simp [runName, String.toList_append]

theorem name_and_actions_of_mem_paths (hname : isProper run.server.name = true)
    (hname' : isProper run'.server.name = true) (h : file ∈ paths run now later)
    (h' : file ∈ paths run' now' later') :
    run.server.name = run'.server.name ∧
      sortUnique run.actions = sortUnique run'.actions := by
  obtain ⟨rest, hrest⟩ := exists_filename h
  obtain ⟨rest', hrest'⟩ := exists_filename h'
  have htext : (runName run ++ rest).toList = (runName run' ++ rest').toList := by
    rw [← hrest, ← hrest']
  rw [toList_runName_append, toList_runName_append] at htext
  obtain ⟨hserver, htext⟩ := eq_of_append_cons_eq (dash_notMem_of_isProper hname)
    (dash_notMem_of_isProper hname') htext
  obtain ⟨hid, -⟩ := eq_of_append_cons_eq (dash_notMem_id _) (dash_notMem_id _) htext
  exact ⟨String.toList_inj.mp hserver, taskGen_id_injective (String.toList_inj.mp hid)⟩

/-- Two runs that have a file in common perform the same actions on servers of the same name. -/
theorem same_of_mem_paths (hname : isProper run.server.name = true)
    (hname' : isProper run'.server.name = true) (h : file ∈ paths run now later)
    (h' : file ∈ paths run' now' later') :
    run.server.name = run'.server.name ∧ ∀ a, a ∈ run.actions ↔ a ∈ run'.actions := by
  obtain ⟨hserver, hactions⟩ := name_and_actions_of_mem_paths hname hname' h h'
  refine ⟨hserver, ?_⟩
  intro a
  rw [← mem_sortUnique, hactions, mem_sortUnique]

end Paths

section Hosts

variable {P : Patterns} {server : KetServer} {conn : AnsibleConn}

theorem inventory_localhost : inventory server conn "localhost" = some localhost :=
  Function.update_self ..

theorem inventory_server (h : server.name ≠ "localhost") :
    inventory server conn server.name = some conn :=
  (Function.update_of_ne h ..).trans (Function.update_self ..)

/-- The controller is among the hosts that such a name selects. -/
theorem selects_localhost (h : server.name ∈ meaningful) :
    P.Selects (inventory server conn) server.name "localhost" := by
  have hsome : inventory server conn "localhost" ≠ none := by
    rw [inventory_localhost]
    exact Option.some_ne_none _
  simp only [meaningful, List.mem_cons, List.not_mem_nil, or_false] at h
  rcases h with h | h | h
  · exact (P.group _ _ _ (.inl h)).mpr hsome
  · exact (P.group _ _ _ (.inr h)).mpr hsome
  · rw [h]
    exact (P.host _ _ _ (by decide) (by decide) (by decide)).mpr ⟨rfl, hsome⟩

theorem selects_of_notMem (hproper : isProper server.name = true) (h : server.name ∉ meaningful)
    (host : String) : P.Selects (inventory server conn) server.name host ↔ host = server.name := by
  simp only [meaningful, List.mem_cons, List.not_mem_nil, or_false, not_or] at h
  rw [P.host _ _ _ hproper h.1 h.2.1, and_iff_left_iff_imp]
  rintro rfl
  rw [inventory_server h.2.2]
  exact Option.some_ne_none _

/-- A run is played on the connection of its server and on nothing else, unless the name of the
server means something to Ansible: then it is played on the controller, too. -/
theorem played_on_server_iff (hproper : isProper server.name = true)
    (hconn : conn.ansibleConnection = none) :
    (∀ host, P.Selects (inventory server conn) server.name host →
      inventory server conn host = some conn) ↔ server.name ∉ meaningful := by
  constructor
  · intro h hmem
    have hlocal := h "localhost" (selects_localhost hmem)
    rw [inventory_localhost] at hlocal
    rw [← Option.some.inj hlocal] at hconn
    cases hconn
  · intro h host hselects
    rw [(selects_of_notMem hproper h host).mp hselects]
    simp only [meaningful, List.mem_cons, List.not_mem_nil, or_false, not_or] at h
    exact inventory_server h.2.2

end Hosts

section Accepted

open Xcplane.NameSuggestions
open Xcplane.CloudConfig
open Xcplane.Server

variable {F : Forms} {draws : Nat → SecretDraw} {t : TCloud} {s : KetServer}
  {before after : List KetServer} {name name' : String}

/-- Each of these names is accepted in the place of any other, and every run on the server of that
name is then played on the controller. -/
theorem played_on_controller (h : Accepted F draws (withServer t before s name after))
    (hname : name' ∈ meaningful) (hfree : name' ∉ (before ++ after).map KetServer.name) :
    Accepted F draws (withServer t before s name' after) ∧
      ∀ (P : Patterns) (server : KetServer) (conn : AnsibleConn), server.name = name' →
        P.Selects (inventory server conn) server.name "localhost" := by
  have hproper : ∀ n ∈ meaningful, isProper n = true := by decide
  refine ⟨accepted_withServer h (hproper name' hname) hfree, ?_⟩
  rintro P server conn rfl
  exact selects_localhost hname

end Accepted

section Instances

open Xcplane.CloudConfig
open Xcplane.NameSuggestions
open Xcplane.Specimen

def renewal : AnsibleRun where
  server := alpha
  actions := [.Acme]
  rebaseData := none

/-- The inventory does not bear the time, and the same run at another time writes it again. -/
theorem same_of_mem_paths_renewal :
    inventoryPath renewal ∈ paths renewal LatestBackup.december LatestBackup.december ∧
      inventoryPath renewal ∈ paths renewal LatestBackup.january LatestBackup.january ∧
        renewal.server.name = renewal.server.name ∧
          ∀ a, a ∈ renewal.actions ↔ a ∈ renewal.actions := by
  have hdecember :
      inventoryPath renewal ∈ paths renewal LatestBackup.december LatestBackup.december :=
    List.mem_cons_self
  have hjanuary :
      inventoryPath renewal ∈ paths renewal LatestBackup.january LatestBackup.january :=
    List.mem_cons_self
  exact ⟨hdecember, hjanuary, same_of_mem_paths (by decide) (by decide) hdecember hjanuary⟩

theorem group_patterns (hosts : Inventory) (host group : String)
    (h : group = "all" ∨ group = "ungrouped") :
    (group = "all" ∨ group = "ungrouped" ∨ host = group) ∧ hosts host ≠ none ↔
      hosts host ≠ none := by
  rw [← or_assoc]
  exact and_iff_right (.inl h)

theorem host_patterns (hosts : Inventory) (host name : String) (_ : isProper name = true)
    (hall : name ≠ "all") (hungrouped : name ≠ "ungrouped") :
    (name = "all" ∨ name = "ungrouped" ∨ host = name) ∧ hosts host ≠ none ↔
      host = name ∧ hosts host ≠ none := by
  simp [hall, hungrouped]

def patterns : Patterns where
  Selects hosts name host :=
    (name = "all" ∨ name = "ungrouped" ∨ host = name) ∧ hosts host ≠ none
  group := group_patterns
  host := host_patterns

theorem played_on_server_iff_alpha :
    (∀ host, patterns.Selects (inventory alpha (conn "1.1.1.1" 79)) "alpha" host →
      inventory alpha (conn "1.1.1.1" 79) host = some (conn "1.1.1.1" 79)) ↔
        "alpha" ∉ meaningful :=
  played_on_server_iff (by decide) rfl

/-- The configuration declares one server. -/
def oneServer : TCloud :=
  declared [{ beta with inbounds := [] }]

theorem played_on_controller_renamed :
    Accepted forms draws (withServer oneServer [] { beta with inbounds := [] } "localhost" []) ∧
      ∀ (P : Patterns) (server : KetServer) (conn : AnsibleConn), server.name = "localhost" →
        P.Selects (inventory server conn) server.name "localhost" := by
  have hbeta : Accepted forms draws
      (withServer oneServer [] { beta with inbounds := [] } "beta" []) := ⟨_, rfl⟩
  exact played_on_controller hbeta (by decide) (by decide)

end Instances

end Xcplane.RunFiles
