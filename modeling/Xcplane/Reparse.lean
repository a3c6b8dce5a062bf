import Xcplane.CloudConfig
import Xcplane.Lib.Related

/-!
Parsing the same config file again: the declarations are the same, only the random
secrets are drawn anew.
-/

namespace Xcplane.Reparse

open Xcplane.Types
open Xcplane.Lib
open Xcplane.Server
open Xcplane.CloudConfig

/-- `s'` is `s` with fresh secrets. The health path is derived from the declaration,
and the same inbounds have a mother sub-ID. -/
structure Redrawn (s s' : KetServer) : Prop where
  same : s' = { s with secrets := s'.secrets }
  healthPath : s'.secrets.healthPath = s.secrets.healthPath
  subids : ∀ n, (s'.secrets.motherSubid n).isSome = true ↔
    (s.secrets.motherSubid n).isSome = true

variable {F : Forms} {draws draws' : Nat → SecretDraw} {t : TCloud} {c c' : Cloud}

theorem prepareServer_redrawn (settings : CloudSettings) (draw draw' : SecretDraw)
    (s : KetServer) :
    Redrawn (prepareServer F settings draw s) (prepareServer F settings draw' s) where
  same := rfl
  healthPath := rfl
  subids _ := (motherSubidsGen_isSome _ _ _).trans (motherSubidsGen_isSome _ _ _).symm

/-- Two readings of a config file declare the same servers. -/
theorem parseCloudConfig_redrawn (h : parseCloudConfig F draws t = .ok c)
    (h' : parseCloudConfig F draws' t = .ok c') :
    c'.settings = c.settings ∧ List.Forall₂ Redrawn c.servers c'.servers := by
  refine ⟨by rw [parseCloudConfig_settings h, parseCloudConfig_settings h'], ?_⟩
  rw [parseCloudConfig_servers h, parseCloudConfig_servers h', List.forall₂_map_left_iff,
    List.forall₂_map_right_iff, List.forall₂_same]
  intro p _
  have hprepared := prepareServer_redrawn (F := F) t.settings (draws p.2) (draws' p.2) p.1
  exact ⟨rfl, hprepared.healthPath, hprepared.subids⟩

theorem parseCloudConfig_redrawn_names (h : parseCloudConfig F draws t = .ok c)
    (h' : parseCloudConfig F draws' t = .ok c') : c'.names = c.names :=
  (map_eq_of_forall₂ (parseCloudConfig_redrawn h h').2 fun s s' hs => by rw [hs.same]).symm

/-- The server of a name is declared by both readings. -/
theorem exists_redrawn (h : parseCloudConfig F draws t = .ok c)
    (h' : parseCloudConfig F draws' t = .ok c') {n : String} {s' : KetServer}
    (hs' : c'.collected n = some s') : ∃ s, c.collected n = some s ∧ Redrawn s s' := by
  obtain ⟨hmem', hname'⟩ := Cloud.collected_eq_some hs'
  obtain ⟨s, hs, hredrawn⟩ := exists_left_of_mem (parseCloudConfig_redrawn h h').2 hmem'
  have hname : s.name = n := by
    rw [← hname', hredrawn.same]
  refine ⟨s, ?_, hredrawn⟩
  rw [← hname]
  exact Cloud.collected_of_mem (parseCloudConfig_distinct h).names hs

end Xcplane.Reparse
