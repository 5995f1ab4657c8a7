import ServiceTemplates.Proofs.Reconcile.Flow

/-!
# Templated and provisioned objects that fit

An object and what is provisioned for it fit together once the latter was created or its
drift was written, and still do once the former was reported on. Main statements:
`Flow.Fits.created`, `Flow.Fits.pushed` and `Flow.Fits.recorded`.
-/

namespace ServiceTemplates

theorem Metadata.isControlledBy_successor {k : Kind} (m : Metadata) {o obj : Object k}
    (h : obj.metadata = o.metadata) :
    m.isControlledBy (Store.successor o obj) = m.isControlledBy o := by
  simp only [Metadata.isControlledBy, Store.successor, h]

namespace Flow

variable {t p : Kind}

/-- Whether a templated object and what is provisioned for it stand under one key and fit
together. -/
structure Fits (F : Flow t p) (key : ObjectKey) (c : Cluster) (o : Object t) (s : Object p) :
    Prop where
  templated : c.find? t key = some o
  provisioned : c.find? p key = some s
  controlled : s.metadata.isControlledBy o
  inSync : F.inSync o.spec s.spec

namespace Fits

variable {F : Flow t p} {key : ObjectKey} {c c' : Cluster} {o : Object t} {s : Object p}

/-- Where the two fit only the report is left. -/
theorem proceed_eq (h : F.Fits key c o s) (time : String) :
    F.proceed time o (some s) = some <$> F.report time (o, s) :=
  proceed_of_inSync time h.controlled h.inSync

theorem recorded (h : F.Fits key c o s) (hc : c.Sound) {status : Option t.Status}
    (hputs : c.Puts (Store.successor o { o with status := status }) c') :
    F.Fits key c' (Store.successor o { o with status := status }) s where
  templated :=
    have hplace : o.place = key := hc.place h.templated
    hputs.find?_of_place hplace
  provisioned := (hputs.find?_of_ne fun e => absurd e F.templated_ne_provisioned.symm).trans
    h.provisioned
  controlled := (Metadata.isControlledBy_successor s.metadata rfl).trans h.controlled
  inSync := h.inSync

theorem pushed (hc : c.Sound) (ho : c.find? t key = some o) (hs : c.find? p key = some s)
    (hctl : s.metadata.isControlledBy o)
    (hputs : c.Puts (Store.successor s { s with spec := F.refresh o.spec s.spec }) c') :
    F.Fits key c' o (Store.successor s { s with spec := F.refresh o.spec s.spec }) where
  templated := (hputs.find?_of_ne fun e => absurd e F.templated_ne_provisioned).trans ho
  provisioned :=
    have hplace : s.place = key := hc.place hs
    hputs.find?_of_place hplace
  controlled := hctl
  inSync := F.inSync_refresh _ _

/-- What is built stands under the key, is controlled by `o` and follows it. -/
theorem created (hc : c.Sound) (ho : c.find? t key = some o) (hname : key.name ≠ "")
    {desired : Object p} (hbuild : F.build o = .ok desired) {uid version : String}
    (hputs : c.Puts (Store.stamp desired uid version) c') :
    F.Fits key c' o (Store.stamp desired uid version) where
  templated := (hputs.find?_of_ne fun e => absurd e F.templated_ne_provisioned).trans ho
  provisioned :=
    have hplace : desired.place = key :=
      Object.place_of_provisioned (hc.place ho) hname (F.build_metadata hbuild)
    hputs.find?_of_place hplace
  controlled := Object.controls_provisioned (Object.name_of_place (hc.place ho) hname)
    (by rw [Store.stamp, F.build_metadata hbuild]; rfl)
  inSync :=
    have hsync : F.inSync o.spec desired.spec := F.inSync_build hbuild
    hsync

end Fits

end Flow

end ServiceTemplates
