import Retrace.Language.Registry
import Retrace.Recording.Load
import Retrace.Settings.Layers

/-!
# Why a run fails

A run can fail at each of its stages. Most faults are reported to the user with
their message; those that the stages do not expect are not, and end the run.
-/

namespace Retrace

inductive Fault where
  | settings (fault : Settings.Fault)
  | language (fault : Language.Fault)
  | recording (fault : Recording.Fault)
  | script (fault : Script.Fault)
  | file (fault : Files.Fault)
  | encoding (fault : Text.Unencodable)
  deriving Repr

namespace Fault

def message : Fault → String
  | settings fault => fault.message
  | language fault => fault.message
  | recording fault => fault.message
  | script fault => fault.message
  | file fault => fault.message
  | encoding fault => fault.message

def ofDocumentIsReported : Files.Document.Cause → Bool
  | .yaml _ fault => fault.isExpected
  | _ => true

def ofSettingsIsReported : Settings.Fault → Bool
  | .document _ cause => ofDocumentIsReported cause
  | .notAMapping _ => true
  | .unknownField _ => false

def ofRecordingIsReported : Recording.Fault → Bool
  | .document _ cause => ofDocumentIsReported cause
  | .modifiers _ => false
  | _ => true

/-- Values of the wrong kind are not expected. -/
def ofScriptIsReported : Script.Fault → Bool
  | .unsupportedAction .. | .unsupportedValue .. | .integerTooLong | .locator _ | .notACall
  | .unaddressable _ | .unmatchedBlock | .tooFewItems .. | .tooManyItems _ | .noKey _ => true
  | _ => false

/-- Whether a fault of generating a script is reported. -/
def isReported : Fault → Bool
  | settings fault => ofSettingsIsReported fault
  | language (.notAGenerator _) => false
  | language _ => true
  | recording fault => ofRecordingIsReported fault
  | script fault => ofScriptIsReported fault
  | file _ | encoding _ => false

end Fault

end Retrace
