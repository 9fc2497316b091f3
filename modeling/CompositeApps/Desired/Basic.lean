import CompositeApps.App.Basic
import CompositeApps.Manifest.Deployment
import CompositeApps.Manifest.Service
import CompositeApps.Manifest.Autoscaler
import CompositeApps.Manifest.DestinationRule

/-!
The kinds of objects that are made for an app, and the objects themselves.
-/

namespace CompositeApps

inductive ChildKind where
  | deployment
  | service
  | virtualService
  | autoscaler
  | destinationRule
  deriving DecidableEq, Repr, Inhabited

/-- Whether there is one object for the app, or one for each of its versions. -/
inductive Scope where
  | app
  | version
  deriving DecidableEq, Repr

namespace ChildKind

def all : List ChildKind :=
  [deployment, service, virtualService, autoscaler, destinationRule]

def name : ChildKind → String
  | deployment => "Deployment"
  | service => "Service"
  | virtualService => "VirtualService"
  | autoscaler => "HorizontalPodAutoscaler"
  | destinationRule => "DestinationRule"

def ofName? (name : String) : Option ChildKind :=
  all.find? (·.name = name)

def scope : ChildKind → Scope
  | deployment | autoscaler => .version
  | service | virtualService | destinationRule => .app

def observes : ChildKind → Bool
  | deployment => true
  | service | virtualService | autoscaler | destinationRule => false

end ChildKind

inductive Child where
  | deployment (d : Deployment)
  | service (s : Service)
  | virtualService (v : VirtualService)
  | autoscaler (a : Autoscaler)
  | destinationRule (r : DestinationRule)
  deriving DecidableEq, Inhabited

namespace Child

def kind : Child → ChildKind
  | deployment _ => .deployment
  | service _ => .service
  | virtualService _ => .virtualService
  | autoscaler _ => .autoscaler
  | destinationRule _ => .destinationRule

def metadata : Child → ObjectMeta
  | deployment d => d.metadata
  | service s => s.metadata
  | virtualService v => v.metadata
  | autoscaler a => a.metadata
  | destinationRule r => r.metadata

def withMetadata (m : ObjectMeta) : Child → Child
  | deployment d => deployment { d with metadata := m }
  | service s => service { s with metadata := m }
  | virtualService v => virtualService { v with metadata := m }
  | autoscaler a => autoscaler { a with metadata := m }
  | destinationRule r => destinationRule { r with metadata := m }

def toJson : Child → Json
  | deployment d => d.toJson
  | service s => s.toJson
  | virtualService v => v.toJson
  | autoscaler a => a.toJson
  | destinationRule r => r.toJson

def decode (kind : ChildKind) : Decoder Child := fun v =>
  match kind with
  | .deployment => deployment <$> Deployment.decode v
  | .service => service <$> Service.decode v
  | .virtualService => virtualService <$> VirtualService.decode v
  | .autoscaler => autoscaler <$> Autoscaler.decode v
  | .destinationRule => destinationRule <$> DestinationRule.decode v

def isFinite : Child → Bool
  | virtualService v => v.spec.isFinite
  | deployment _ | service _ | autoscaler _ | destinationRule _ => true

def deployment? : Child → Option Deployment
  | deployment d => some d
  | _ => none

end Child

inductive Desired (α : Type) where
  | present (object : α)
  /-- The object must not exist. -/
  | absent
  /-- Somebody else looks after the object; it is neither made nor deleted. -/
  | unmanaged
  deriving DecidableEq, Repr

def Desired.map {α β : Type} (f : α → β) : Desired α → Desired β
  | present a => present (f a)
  | absent => absent
  | unmanaged => unmanaged

namespace CompositeApp

def childMetadata (app : CompositeApp) : ObjectMeta :=
  { name := some app.name
    namespaceName := some app.namespaceName
    labels := some app.childLabels }

def versionMetadata (app : CompositeApp) (e : VersionEntry) : ObjectMeta :=
  { name := some (app.versionName e)
    namespaceName := some app.namespaceName
    labels := some (app.versionLabels e) }

end CompositeApp

end CompositeApps
