import ZenohDslr.ExposureArguments
import ZenohDslr.ReadYourWrites
namespace ZenohDslr.PiRuntime
open Picoparams Picoparams.ParameterServer DictParameterBackend ExposureParameterServer GPhoto2CaptureBackend Runs

section Distinct
variable {ν μ : Type} {items : List (String × ν)} {key : String}

end Distinct

variable {params : OrderedDict String String} {key : String}

section Requests
variable [Python]

end Requests

end ZenohDslr.PiRuntime
