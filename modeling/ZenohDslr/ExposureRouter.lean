import ZenohDslr.RouterLocator
import ZenohDslr.RuntimeSettings
namespace ZenohDslr.PiRuntime
open Picoros

variable {decimal : Char → Option Nat} {config : ExposureParamsConfig}

-- The interface `ExposureParameterServer.start` builds, and the router its node asks for.
def ExposureParamsConfig.interface (config : ExposureParamsConfig) : Interface where
  mode := "client"
  locator := locatorText config.routerIp config.routerPort

def ExposureParamsConfig.router (decimal : Char → Option Nat) (config : ExposureParamsConfig) : Except LocatorError (String × Int) :=
  nodeRouter decimal config.interface none none

-- The publishers hand theirs to the SDK as it is configured.
def Ros2PublishConfig.router (config : Ros2PublishConfig) : String × Int := (config.routerIp,config.routerPort)

def CoreTempPublishConfig.router (config : CoreTempPublishConfig) : String × Int := (config.routerIp,config.routerPort)

structure Connects (decimal : Char → Option Nat) (config : ExposureParamsConfig) : Prop where
  parsed : parseLocator decimal config.interface.locator = .ok (config.routerIp,config.routerPort)
  ip : config.interface.routerIp decimal = .ok config.routerIp
  port : config.interface.routerPort decimal = .ok config.routerPort
  image : ∀ image : Ros2PublishConfig, image.routerIp = config.routerIp → image.routerPort = config.routerPort →
    config.router decimal = .ok image.router
  coreTemp : ∀ coreTemp : CoreTempPublishConfig, coreTemp.routerIp = config.routerIp → coreTemp.routerPort = config.routerPort →
    config.router decimal = .ok coreTemp.router

theorem router_parsed (config : ExposureParamsConfig) :
    config.router decimal = parseLocator decimal (locatorText config.routerIp config.routerPort) := by
  simp only [ExposureParamsConfig.router,nodeRouter,Interface.routerIp,Interface.routerPort,ExposureParamsConfig.interface,Option.elim_none]
  cases parseLocator decimal (locatorText config.routerIp config.routerPort) with
  | error refused => rfl
  | ok parsed => rfl

theorem connects_iff (decimal : Char → Option Nat) (config : ExposureParamsConfig) :
    Connects decimal config ↔ config.routerIp ≠ "" ∧ ':' ∉ config.routerIp.toList := by
  rw [← parseLocator_iff config.routerIp config.routerPort]
  constructor
  · intro connects
    exact connects.parsed
  · intro parsed
    have router := (@router_parsed decimal config).trans parsed
    refine ⟨parsed,?_,?_,?_,?_⟩
    · rw [Interface.routerIp,ExposureParamsConfig.interface,parsed]
      rfl
    · rw [Interface.routerPort,ExposureParamsConfig.interface,parsed]
      rfl
    · intro image sameIp samePort
      rw [router,Ros2PublishConfig.router,sameIp,samePort]
    · intro coreTemp sameIp samePort
      rw [router,CoreTempPublishConfig.router,sameIp,samePort]

-- The loopback address of IPv6, in the brackets a locator wants.
theorem bracketed_loopback : ¬Connects (fun _ => none) ⟨"dslr_camera","[::1]",7447⟩ := by
  intro connects
  have whole := ((@parseLocator_iff (fun _ => none) "[::1]" 7447).mp connects.parsed).2
  exact absurd whole (by decide)

-- An exposure block that names no router follows the one of the images.
theorem exposure_follows_images (hostname : Option String) (payload : Payload)
    (unnamed : payload.exposure.routerIp = none ∧ payload.exposure.routerPort = none) :
    let settings := PiRuntimeSettings.fromFile hostname payload
    settings.exposure.router decimal = .ok settings.ros2Publish.router ↔
      settings.ros2Publish.routerIp ≠ "" ∧ ':' ∉ settings.ros2Publish.routerIp.toList := by
  intro settings
  have ip : settings.exposure.routerIp = settings.ros2Publish.routerIp := by
    simp [settings,PiRuntimeSettings.fromFile,exposureFromPayload,unnamed.1]
  have port : settings.exposure.routerPort = settings.ros2Publish.routerPort := by
    simp [settings,PiRuntimeSettings.fromFile,exposureFromPayload,unnamed.2]
  rw [router_parsed,ip,port]
  exact parseLocator_iff _ _

end ZenohDslr.PiRuntime
