import Xcplane.CloudDocument
import Xcplane.Connections
import Xcplane.Reparse
import Xcplane.WellFormedConfig

/-!
The backup of the running cloud as a config file. It is serialized, edited as a document,
and meant to be read again by the parser of config files.
-/

namespace Xcplane.CloudBackup

open Xcplane.Types
open Xcplane.Lib
open Xcplane.Lib.Document
open Xcplane.Lib.Utf8
open Xcplane.Server
open Xcplane.CloudConfig
open Xcplane.CloudDocument
open Xcplane.DaemonCycle
open Xcplane.WellFormedConfig
open Xcplane.Reparse

section Backup

def isSuper (inbound : Table) : Bool :=
  (inbound.lookup "name").bind Item.asStr == some SvcKind.superName

def withoutSuper (server : Table) : Table :=
  match (server.lookup "inbounds").bind Item.asArrayOfTables with
  | some inbounds => insert server "inbounds" (.tables (inbounds.filter fun t => !isSuper t))
  | none => server

/-- Deleting the super inbounds before the file is written. -/
def deleteSupers (doc : Table) : Except BoxError Table := do
  let servers ← okOr ((doc.lookup "servers").bind Item.asArrayOfTables)
    "servers must be an array of tables in cloud config."
  .ok (insert doc "servers" (.tables (servers.map withoutSuper)))

/-- The backup of a cloud, with what becomes of copying the database and of writing the
file. It gives the text of the file. -/
def createBackup (F : Forms) (T : Texts) (copyDb writeFile : Except BoxError Unit) (c : Cloud) :
    Except BoxError String := do
  copyDb
  let doc ← T.parseDocument (T.toString (cloudTable F c))
  let doc ← deleteSupers doc
  writeFile
  .ok (T.documentText doc)

/-- How a command ends after the check of the config file: one that fails is answered, and
the backup that fails ends the daemon. -/
def backedUp (checked : Except BoxError DaemonNext) (backup : Except BoxError String) :
    Except BoxError (Option DaemonNext) :=
  match checked with
  | .error _ => .ok none
  | .ok next => do
      let _ ← backup
      .ok (some next)

end Backup

section Statement

variable {δ : Type} (F : Forms) (L : CaseTables) (T : Texts)

/-- The backup of the cloud is written and gives the cloud back, and no command on it ends
the daemon. -/
structure Restorable (δ : Type) (draws : Nat → SecretDraw) (c : Cloud) : Prop where
  restored : ∃ text c', createBackup F T (.ok ()) (.ok ()) c = .ok text ∧
    cloudOfText F L T draws text = .ok c' ∧ c'.settings = c.settings ∧
      List.Forall₂ Redrawn c.servers c'.servers
  withoutSupers : ∃ text doc t, createBackup F T (.ok ()) (.ok ()) c = .ok text ∧
    T.fromStr text = .ok doc ∧ decodeCloud F L doc = .ok t ∧
      ∀ s ∈ t.servers, SvcKind.superName ∉ s.inboundNames
  commands : ∀ (w : Surroundings δ) config command, ∃ next,
    backedUp (checkAndBackup w c config command) (createBackup F T (.ok ()) (.ok ()) c) = .ok next

end Statement

section Editing

variable {F : Forms} {s : KetServer} {c : Cloud}

def withoutSuperInbound (s : KetServer) : KetServer :=
  { s with inbounds := s.inbounds.filter fun inb => inb.name != SvcKind.superName }

theorem isSuper_inboundTable (inb : Inbound) :
    isSuper (inboundTable inb) = (inb.name == SvcKind.superName) := by
  show (some inb.name == some SvcKind.superName) = _
  simp

theorem filter_inboundTables (l : List Inbound) :
    ((l.map inboundTable).filter fun t => !isSuper t) =
      (l.filter fun inb => inb.name != SvcKind.superName).map inboundTable := by
  have hkept : (fun t => !isSuper t) ∘ inboundTable =
      fun inb => inb.name != SvcKind.superName := by
    funext inb
    rw [Function.comp_apply, isSuper_inboundTable, bne]
  rw [List.filter_map, hkept]

/-- The server's document without the super inbound is that of the server without it. -/
theorem withoutSuper_serverTable (h : (withoutSuperInbound s).inbounds ≠ []) :
    withoutSuper (serverTable F s) = serverTable F (withoutSuperInbound s) := by
  obtain ⟨inb, rest, hkept⟩ := List.exists_cons_of_ne_nil h
  have hne : s.inbounds ≠ [] := by
    intro hnil
    rw [withoutSuperInbound, hnil] at h
    exact h rfl
  obtain ⟨inb₀, rest₀, hinbounds⟩ := List.exists_cons_of_ne_nil hne
  have hfound : ((serverTable F s).lookup "inbounds").bind Item.asArrayOfTables =
      some (s.inbounds.map inboundTable) := by
    show (Item.ofTables (s.inbounds.map inboundTable)).asArrayOfTables = _
    rw [hinbounds]
    rfl
  have hitem : Item.tables ((s.inbounds.map inboundTable).filter fun t => !isSuper t) =
      .ofTables ((withoutSuperInbound s).inbounds.map inboundTable) := by
    rw [filter_inboundTables]
    show Item.tables ((withoutSuperInbound s).inbounds.map inboundTable) = _
    rw [hkept]
    rfl
  rw [withoutSuper, hfound]
  simp only [hitem]
  rfl

theorem deleteSupers_cloudTable (hne : c.servers ≠ [])
    (h : ∀ s ∈ c.servers, (withoutSuperInbound s).inbounds ≠ []) :
    deleteSupers (cloudTable F c) =
      .ok (cloudTable F { c with servers := c.servers.map withoutSuperInbound }) := by
  have htables : (c.servers.map (serverTable F)).map withoutSuper =
      (c.servers.map withoutSuperInbound).map (serverTable F) := by
    rw [List.map_map, List.map_map]
    apply List.map_congr_left
    intro s hs
    exact withoutSuper_serverTable (h s hs)
  obtain ⟨s, rest, hservers⟩ := List.exists_cons_of_ne_nil hne
  have hfound : ((cloudTable F c).lookup "servers").bind Item.asArrayOfTables =
      some (c.servers.map (serverTable F)) := by
    show (Item.ofTables (c.servers.map (serverTable F))).asArrayOfTables = _
    rw [hservers]
    rfl
  have hitem : Item.tables ((c.servers.map (serverTable F)).map withoutSuper) =
      .ofTables ((c.servers.map withoutSuperInbound).map (serverTable F)) := by
    rw [htables, hservers]
    rfl
  rw [deleteSupers, hfound]
  show Except.ok (insert (cloudTable F c) "servers" (Item.tables _)) = _
  rw [hitem]
  rfl

/-- Without servers there is an empty list, which is no array of tables. -/
theorem deleteSupers_of_nil (h : c.servers = []) : deleteSupers (cloudTable F c) =
    .error "servers must be an array of tables in cloud config." := by
  rw [cloudTable, h]
  rfl

end Editing

section Reading

variable {F : Forms} {L : CaseTables} {draws draws' : Nat → SecretDraw} {t : TCloud} {c : Cloud}
  {s : KetServer}

/-- Deserializing leaves what is not declared empty. -/
theorem declaration_of_decodeServer {doc : Table} (h : decodeServer F L doc = .ok s) :
    declaration s = s := by
  iterate 14 obtain ⟨_, _, h⟩ := bind_eq_ok_iff.mp h
  cases h
  rfl

theorem declaration_of_readServers {item : Item} {l : List KetServer}
    (h : readServers F L item = .ok l) : ∀ s ∈ l, declaration s = s := by
  have hread : ∀ {α : Type} {f : α → Except BoxError KetServer} {items : List α},
      (∀ a s, f a = .ok s → declaration s = s) → items.mapM f = .ok l →
        ∀ s ∈ l, declaration s = s := by
    intro α f items hf hall s hs
    obtain ⟨a, _, ha⟩ := exists_left_of_mem (mapM_eq_ok_iff.mp hall) hs
    exact hf a s ha
  have htable : ∀ item s, (Item.toTable item >>= decodeServer F L) = .ok s →
      declaration s = s := by
    intro item s hs
    obtain ⟨doc, _, hdoc⟩ := bind_eq_ok_iff.mp hs
    exact declaration_of_decodeServer hdoc
  cases item with
  | array items => exact hread htable h
  | tables l' => exact hread (fun doc s hs => htable (.table doc) s hs) h
  | string text => cases h
  | integer n => cases h
  | boolean b => cases h
  | table entries => cases h

theorem declaration_of_decodeCloud {doc : Table} (h : decodeCloud F L doc = .ok t) :
    ∀ s ∈ t.servers, declaration s = s := by
  obtain ⟨servers, hservers, h⟩ := bind_eq_ok_iff.mp h
  obtain ⟨settings, _, h⟩ := bind_eq_ok_iff.mp h
  cases h
  unfold field at hservers
  split at hservers
  · exact declaration_of_readServers hservers
  · cases hservers

theorem cloudOfText_eq {T : Texts} {text : String} {doc : Table} (hdoc : T.fromStr text = .ok doc)
    (ht : decodeCloud F L doc = .ok t) :
    cloudOfText F L T draws text = parseCloudConfig F draws t := by
  rw [cloudOfText, hdoc]
  show (decodeCloud F L doc >>= fun t => parseCloudConfig F draws t) = _
  rw [ht]
  rfl

end Reading

section Redeclaring

variable {F : Forms} {draws draws' : Nat → SecretDraw} {t : TCloud} {c : Cloud} {s p : KetServer}

/-- What the file declares of a server that was parsed from a declaration. -/
def redeclared (inboundSet : List Inbound) (p : KetServer) : KetServer :=
  declaration { p with inbounds := inboundsOf inboundSet p }

theorem redeclared_of_prepared {settings : CloudSettings} {draw : SecretDraw}
    (hsuper : SvcKind.superName ∉ (inboundsOf settings.inboundSet p).map Inbound.name) :
    declaration (withoutSuperInbound (withSuper (prepareServer F settings draw p))) =
      redeclared settings.inboundSet p := by
  have hkept : (inboundsOf settings.inboundSet p ++ [Inbound.superInbound]).filter
      (fun inb => inb.name != SvcKind.superName) = inboundsOf settings.inboundSet p := by
    rw [List.filter_append, List.filter_eq_self.mpr]
    · simp
    · intro inb hinb
      rw [bne_iff_ne]
      intro heq
      exact hsuper (heq ▸ List.mem_map_of_mem hinb)
  rw [prepareServer_eq]
  simp only [withSuper, withoutSuperInbound, declaration, redeclared, hkept]

theorem inboundsOf_ne_nil {inboundSet : List Inbound} (hne : inboundSet ≠ []) (p : KetServer) :
    inboundsOf inboundSet p ≠ [] := by
  rw [inboundsOf]
  split
  · exact hne
  · rename_i hdeclared
    simpa using hdeclared

theorem inboundsOf_redeclared {inboundSet : List Inbound} (hne : inboundSet ≠ []) :
    inboundsOf inboundSet (redeclared inboundSet p) = inboundsOf inboundSet p := by
  have hempty : (redeclared inboundSet p).inbounds.isEmpty = false := by
    simpa [redeclared, declaration] using inboundsOf_ne_nil hne p
  rw [inboundsOf, hempty, if_neg Bool.false_ne_true]
  rfl

theorem prepareServer_fill (settings : CloudSettings) (draw : SecretDraw) (s : KetServer) :
    prepareServer F settings draw s =
      fillSecrets F draw
        { buildInventory F s with inbounds := inboundsOf settings.inboundSet s } := by
  by_cases hempty : s.inbounds.isEmpty = true
  · simp [prepareServer, buildInventory, inboundsOf, hempty]
  · simp [prepareServer, buildInventory, inboundsOf, hempty]

/-- A redeclared server is prepared as the declared one was. -/
theorem prepareServer_redeclared {settings settings' : CloudSettings}
    (hset : settings'.inboundSet = settings.inboundSet) (hne : settings.inboundSet ≠ [])
    (hplain : declaration p = p) (draw : SecretDraw) :
    prepareServer F settings' draw (redeclared settings.inboundSet p) =
      prepareServer F settings draw p := by
  have hcfstate : p.cfstate = none := by
    rw [← hplain]
    rfl
  rw [prepareServer_fill, prepareServer_fill, hset, inboundsOf_redeclared hne]
  simp only [fillSecrets, buildInventory, redeclared, declaration, hcfstate]
  rfl

theorem wellFormed_redeclared {settings : CloudSettings}
    (hset : settings.inboundSet = t.settings.inboundSet) (h : WellFormed t) :
    WellFormed
      { servers := t.servers.map (redeclared t.settings.inboundSet), settings := settings } where
  inboundSet := by
    rw [hset]
    exact h.inboundSet
  servers := by
    rw [hset, List.forall_mem_map]
    intro p hp
    have hserver := h.servers p hp
    have hinbounds := inboundsOf_redeclared (p := p) h.inboundSet.nonempty
    exact
      { name := hserver.name
        ip := hserver.ip
        subdomains := hserver.subdomains
        subdomains_nodup := hserver.subdomains_nodup
        inbounds := by
          rw [hinbounds]
          exact hserver.inbounds
        covered := by
          rw [hinbounds]
          exact hserver.covered }
  names := by
    rw [List.map_map]
    exact h.names
  domains := by
    rw [List.map_map]
    exact h.domains
  ips := by
    rw [List.map_map]
    exact h.ips

theorem max_max_self (m n : UInt64) : max (max m n) n = max m n := by
  have hmax : ∀ a b : UInt64, max a b = if a ≤ b then b else a := fun _ _ => rfl
  rw [hmax, hmax]
  by_cases h : m ≤ n
  · rw [if_pos h, if_pos (UInt64.le_refl n)]
  · rw [if_neg h, if_neg h]

/-- Reading the declarations of a parsed cloud gives what reading the original file with the
same draws does. -/
theorem parse_redeclared (h : parseCloudConfig F draws t = .ok c)
    (hplain : ∀ p ∈ t.servers, declaration p = p) (draws' : Nat → SecretDraw) :
    ∃ c', parseCloudConfig F draws'
        { servers := t.servers.map (redeclared t.settings.inboundSet), settings := c.settings } =
          .ok c' ∧ parseCloudConfig F draws' t = .ok c' := by
  have hwell := exists_parseCloudConfig_iff.mp ⟨c, h⟩
  have hset : c.settings.inboundSet = t.settings.inboundSet := by
    rw [parseCloudConfig_settings h]
  obtain ⟨c', hc'⟩ : ∃ c', parseCloudConfig F draws' t = .ok c' :=
    exists_parseCloudConfig_iff.mpr hwell
  obtain ⟨c'', hc''⟩ : ∃ c'', parseCloudConfig F draws'
      { servers := t.servers.map (redeclared t.settings.inboundSet), settings := c.settings } =
        .ok c'' := exists_parseCloudConfig_iff.mpr (wellFormed_redeclared hset hwell)
  have hservers : c''.servers = c'.servers := by
    rw [parseCloudConfig_servers hc'', parseCloudConfig_servers hc', List.zipIdx_map, List.map_map]
    apply List.map_congr_left
    rintro ⟨p, i⟩ hp
    have hprepared := prepareServer_redeclared (F := F) hset hwell.inboundSet.nonempty
      (hplain p (List.fst_mem_of_mem_zipIdx hp)) (draws' i)
    exact congrArg withSuper hprepared
  have hsettings : c''.settings = c'.settings := by
    rw [parseCloudConfig_settings hc'', parseCloudConfig_settings hc']
    rw [parseCloudConfig_settings h]
    simp only [max_max_self]
  refine ⟨c'', hc'', ?_⟩
  rw [hc', Except.ok.injEq]
  cases c'
  cases c''
  exact Cloud.mk.injEq .. ▸ ⟨hservers.symm, hsettings.symm⟩

end Redeclaring

section Restoring

variable {δ : Type} {F : Forms} {L : CaseTables} {T : Texts} {draws draws' : Nat → SecretDraw}
  {t : TCloud} {c : Cloud}

/-- The declarations in the file of a backup. -/
theorem declared_of_parse (h : parseCloudConfig F draws t = .ok c) :
    (c.servers.map withoutSuperInbound).map declaration =
      t.servers.map (redeclared t.settings.inboundSet) := by
  have hwell := exists_parseCloudConfig_iff.mp ⟨c, h⟩
  rw [parseCloudConfig_servers h, List.map_map, List.map_map]
  conv_rhs => rw [← List.zipIdx_map_fst 0 t.servers, List.map_map]
  apply List.map_congr_left
  rintro ⟨p, i⟩ hp
  have hp' : p ∈ t.servers := List.fst_mem_of_mem_zipIdx hp
  exact redeclared_of_prepared (hwell.servers p hp').inbounds.notSuper

theorem createBackup_of_parse (h : parseCloudConfig F draws t = .ok c) (hne : c.servers ≠ [])
    (hT : T.Serializes (cloudTable F c)) :
    createBackup F T (.ok ()) (.ok ()) c =
      .ok (T.documentText
        (cloudTable F { c with servers := c.servers.map withoutSuperInbound })) := by
  have hkept : ∀ s ∈ c.servers, (withoutSuperInbound s).inbounds ≠ [] := by
    intro s hs
    obtain ⟨l, hl, hsuper, hinbounds⟩ := inbounds_of_parse h hs
    obtain ⟨inb, rest, rfl⟩ := List.exists_cons_of_ne_nil hl
    have hname : inb.name ≠ SvcKind.superName := by
      intro heq
      exact hsuper (heq ▸ List.mem_cons_self)
    have hmem : inb ∈ (withoutSuperInbound s).inbounds := by
      simp [withoutSuperInbound, hinbounds, hname]
    exact List.ne_nil_of_mem hmem
  rw [Texts.Serializes] at hT
  rw [createBackup, hT]
  show (deleteSupers (cloudTable F c) >>= fun doc => Except.ok (T.documentText doc)) = _
  rw [deleteSupers_cloudTable hne hkept]
  rfl

theorem createBackup_of_nil (h : c.servers = [])
    (hT : T.Serializes (cloudTable F c)) :
    createBackup F T (.ok ()) (.ok ()) c =
      .error "servers must be an array of tables in cloud config." := by
  rw [Texts.Serializes] at hT
  rw [createBackup, hT]
  show (deleteSupers (cloudTable F c) >>= fun doc => Except.ok (T.documentText doc)) = _
  rw [deleteSupers_of_nil h]
  rfl

/-- The file of a backup, read as it is and as a cloud. -/
theorem reread_of_parse (h : parseCloudConfig F draws t = .ok c)
    (hplain : ∀ p ∈ t.servers, declaration p = p) (hF : ∀ s ∈ c.servers, Writable F s)
    (draws' : Nat → SecretDraw) :
    decodeCloud F L (cloudTable F { c with servers := c.servers.map withoutSuperInbound }) =
        .ok { servers := t.servers.map (redeclared t.settings.inboundSet),
              settings := c.settings } ∧
      ∃ c', parseCloudConfig F draws'
          { servers := t.servers.map (redeclared t.settings.inboundSet), settings := c.settings } =
            .ok c' ∧ c'.settings = c.settings ∧ List.Forall₂ Redrawn c.servers c'.servers := by
  have hwritable : ∀ s ∈ c.servers.map withoutSuperInbound, Writable F s := by
    rw [List.forall_mem_map]
    intro s hs
    exact ⟨(hF s hs).ip, (hF s hs).domain, (hF s hs).region, (hF s hs).outboundBlock⟩
  constructor
  · rw [← declared_of_parse h]
    exact decodeCloud_cloudTable hwritable
  · obtain ⟨c', hredeclared, hc'⟩ := parse_redeclared h hplain draws'
    exact ⟨c', hredeclared, parseCloudConfig_redrawn h hc'⟩

/-- The backup of a cloud from a config file can be written, gives the cloud back and leaves
the daemon running exactly when the cloud has a server. -/
theorem restorable_iff (F : Forms) (L : CaseTables) (T : Texts) (draws draws' : Nat → SecretDraw)
    (text : String) (c : Cloud) (h : cloudOfText F L T draws text = .ok c)
    (hF : ∀ s ∈ c.servers, Writable F s) (hT : T.Serializes (cloudTable F c))
    (hT' : T.Edits (cloudTable F { c with servers := c.servers.map withoutSuperInbound })) :
    Restorable F L T δ draws' c ↔ c.servers ≠ [] := by
  obtain ⟨doc, -, h⟩ := bind_eq_ok_iff.mp h
  obtain ⟨t, ht, h⟩ := bind_eq_ok_iff.mp h
  constructor
  · intro hrestorable hnil
    obtain ⟨text', c', hbackup, -⟩ := hrestorable.restored
    rw [createBackup_of_nil hnil hT] at hbackup
    cases hbackup
  · intro hne
    have hbackup := createBackup_of_parse h hne hT
    have hwell := exists_parseCloudConfig_iff.mp ⟨c, h⟩
    obtain ⟨hdecode, c', hparse, hsettings, hservers⟩ :=
      reread_of_parse (L := L) h (declaration_of_decodeCloud ht) hF draws'
    refine ⟨⟨_, c', hbackup, ?_, hsettings, hservers⟩, ⟨_, _, _, hbackup, hT', hdecode, ?_⟩,
      ?_⟩
    · rw [cloudOfText_eq hT' hdecode]
      exact hparse
    · rw [List.forall_mem_map]
      intro p hp
      exact (hwell.servers p hp).inbounds.notSuper
    · intro w config command
      rw [hbackup]
      cases checkAndBackup w c config command with
      | error e => exact ⟨none, rfl⟩
      | ok next => exact ⟨some next, rfl⟩

end Restoring

section Instances

open Xcplane.Specimen

def inboundLines (table : String) (inb : Inbound) : List String :=
  ["", "[[" ++ table ++ "]]", "name = " ++ quoted inb.name, "port = " ++ toString inb.port,
    "kind = " ++ quoted inb.kind.toText, "total = " ++ toString inb.total,
    "traffic = " ++ toString inb.traffic, "expiry = " ++ toString inb.expiry,
    "comment = " ++ quoted inb.comment]

def settingsLines : List String :=
  ["", "[settings]", "auto-fix = true", "fix-threshold = 10", "monitor-interval = 60"] ++
    [direct, proxied].flatMap (inboundLines "settings.inbound-set")

def alphaLines (inbounds : List Inbound) : List String :=
  ["[[servers]]", "name = \"alpha\"", "ip = \"1.1.1.1\"", "domain = \"a.example.org\"",
    "region = \"DE\"", "state = \"Production\"", "quota = 0", "enabled = true", "ssh-port = 79",
    "dns-subdomain = \"dns\"", "ui-subdomain = \"ui\"", "sub-subdomain = \"sub\"",
    "cloudflare-proxied = false", "outbound-block = [\"IR\"]"] ++
    inbounds.flatMap (inboundLines "servers.inbounds")

def fileText (lines : List String) : String :=
  String.intercalate "\n" lines ++ "\n"

/-- A document that is serialized and one that is written after an edit, with their texts. -/
def textsOf (serialized edited : String × Table) : Texts where
  toString _ := serialized.1
  parseDocument text := if text = serialized.1 then .ok serialized.2 else .error "invalid document"
  documentText _ := edited.1
  fromStr text := if text = edited.1 then .ok edited.2 else .error "invalid document"

theorem serializes_textsOf (text : String) (doc : Table) (edited : String × Table) :
    (textsOf (text, doc) edited).Serializes doc :=
  if_pos rfl

theorem edits_textsOf (serialized : String × Table) (text : String) (doc : Table) :
    (textsOf serialized (text, doc)).Edits doc :=
  if_pos rfl

def alphaDeclared : KetServer :=
  declaration { alpha with inbounds := [direct] }

/-- The cloud of one server, as it is read from its file. -/
def oneServer : Cloud :=
  cloud [withSuper (prepareServer forms settings (draws 0) alphaDeclared)]

def oneServerTexts : Texts :=
  textsOf (fileText (alphaLines [direct, Inbound.superInbound] ++ settingsLines),
      cloudTable forms oneServer)
    (fileText (alphaLines [direct] ++ settingsLines),
      cloudTable forms
        { oneServer with servers := oneServer.servers.map withoutSuperInbound })

theorem writable_alpha {s : KetServer} (hip : s.ip = alpha.ip) (hdomain : s.domain = alpha.domain)
    (hregion : s.region = alpha.region) (hblock : s.outboundBlock = alpha.outboundBlock) :
    Writable forms s where
  ip := by
    rw [hip]
    decide
  domain := by
    rw [hdomain]
    decide
  region := by
    rw [hregion]
    decide
  outboundBlock := by
    rw [hblock]
    decide

theorem restorable_iff_oneServer :
    Restorable forms asciiTables oneServerTexts (List String) draws oneServer := by
  have hwritable : ∀ s ∈ oneServer.servers, Writable forms s := by
    intro s hs
    rw [List.mem_singleton.mp hs]
    exact writable_alpha rfl rfl rfl rfl
  have hread : cloudOfText forms asciiTables oneServerTexts draws
      (fileText (alphaLines [direct] ++ settingsLines)) = .ok oneServer := by
    refine (cloudOfText_eq (edits_textsOf _ _ _) (decodeCloud_cloudTable ?_)).trans rfl
    intro s hs
    rw [List.mem_singleton.mp hs]
    exact writable_alpha rfl rfl rfl rfl
  exact (restorable_iff forms asciiTables oneServerTexts draws draws _ oneServer hread hwritable
    (serializes_textsOf _ _ _) (edits_textsOf _ _ _)).mpr (by decide)

def emptyText : String :=
  fileText ("servers = []" :: settingsLines)

def emptyTexts : Texts :=
  textsOf (emptyText, cloudTable forms (cloud [])) (emptyText, cloudTable forms (cloud []))

/-- A file without servers is accepted; the next command on its cloud, after a check that
succeeds, ends the daemon with the error of the backup. -/
theorem backup_of_empty : cloudOfText forms asciiTables emptyTexts draws emptyText =
      .ok (cloud []) ∧
    emptyTexts.Serializes (cloudTable forms (cloud [])) ∧
    emptyTexts.Edits (cloudTable forms (cloud [])) ∧
    (∃ next, checkAndBackup (Connections.surroundings cf) (cloud []) Connections.config .Reload =
        .ok next) ∧
    backedUp (checkAndBackup (Connections.surroundings cf) (cloud []) Connections.config .Reload)
        (createBackup forms emptyTexts (.ok ()) (.ok ()) (cloud [])) =
      .error "servers must be an array of tables in cloud config." ∧
    ¬ Restorable forms asciiTables emptyTexts (List String) draws (cloud []) := by
  have hbackup := createBackup_of_nil (F := forms) (T := emptyTexts) (c := cloud []) rfl
    (serializes_textsOf _ _ _)
  have hread : cloudOfText forms asciiTables emptyTexts draws emptyText = .ok (cloud []) := by
    refine (cloudOfText_eq (edits_textsOf _ _ _) (decodeCloud_cloudTable ?_)).trans rfl
    intro s hs
    cases hs
  refine ⟨hread, serializes_textsOf _ _ _, edits_textsOf _ _ _, ⟨_, rfl⟩, ?_, ?_⟩
  · rw [hbackup]
    rfl
  · intro h
    obtain ⟨text, c', hsome, -⟩ := h.restored
    rw [hbackup] at hsome
    cases hsome

end Instances

end Xcplane.CloudBackup
