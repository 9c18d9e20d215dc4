/-
This file sorts native errors by their numbers. The words of an error play no part, so the kind does
not depend on the language of the session. The numbers that say that a definition was already
carried out are listed here too; a migration takes such an error for success.
-/

import OracleSql.Error.Basic

namespace OracleSql

/-! ### Numbers of each kind -/

/-- A unique key would be held twice. -/
def duplicateKeyCodes : List Int := [1, 38911]

/-- A parent row is absent, or a child row is present. -/
def foreignKeyCodes : List Int := [2291, 2292, 2266]

/-- A null would stand where none may stand. -/
def notNullCodes : List Int := [1400, 1407]

/-- The session could not be opened, or is gone. -/
def connectionCodes : List Int :=
  [1012, 1033, 1034, 1089, 3113, 3114, 3135, 12500, 12505, 12514, 12528, 12537, 12541, 12543,
    12545, 12547, 12560, 28000, 1017]

/-- Something was waited for too long. -/
def timeoutCodes : List Int := [1013, 12170, 51, 30006, 3136, 54]

/-- The statement is malformed, names what does not exist, or needs what the server lacks. -/
def unsupportedCodes : List Int :=
  [900, 901, 902, 903, 904, 905, 906, 907, 908, 909, 911, 917, 918, 921, 923, 924, 925, 926, 927,
    928, 933, 936, 937, 942, 979, 1008, 1036, 1735, 1747, 2000, 3001, 439, 22818, 38104]

/-- What is to be dropped does not exist. -/
def absentOnDropCodes : List Int := [942, 1418, 2289, 4080, 2443, 904]

/-- What is to be made exists, or is in the wanted state. -/
def presentOnCreateCodes : List Int := [955, 1430, 2275, 1442, 1451]

/-! ### Sorting -/

/-- The kind that a number stands for. -/
def ErrorKind.ofCode (code : Option Int) : ErrorKind :=
  match code with
  | none => .unknown
  | some number =>
    if number ∈ duplicateKeyCodes then .duplicateKey
    else if number ∈ foreignKeyCodes then .foreignKeyViolation
    else if number ∈ notNullCodes then .notNullViolation
    else if number ∈ connectionCodes then .connectionFailure
    else if number ∈ timeoutCodes then .timeout
    else if number ∈ unsupportedCodes then .unsupported
    else .unknown

namespace Error

/-- A native error together with its kind. -/
def ofNative (native : NativeError) (context : Context) : Error :=
  classified (.ofCode native.code) native context

/-- The error, classified if it is native. -/
def classify : Error → Error
  | database native context => ofNative native context
  | error => error

/-- Whether the error says that what is to be dropped does not exist. -/
def isAbsentOnDrop (error : Error) : Bool :=
  error.nativeCode?.any absentOnDropCodes.contains

/-- Whether the error says that what is to be made exists. -/
def isPresentOnCreate (error : Error) : Bool :=
  error.nativeCode?.any presentOnCreateCodes.contains

end Error

/-- The error as the dialect shows it: native errors are classified where that is wanted. -/
def Dialect.translateError (dialect : Dialect) (error : Error) : Error :=
  if dialect.translateErrors then error.classify else error

end OracleSql
