import Counterpart.Field.Codec
import Counterpart.Settings.Codec

/-!
This module contains the JSON form of settings: how they are shown, and how the settings of the log
are read.
-/

namespace Counterpart

open Numeric

namespace LogFormat

def jsonDecoder : Json.Decoder LogFormat := Json.Decoder.choice names

end LogFormat

namespace LoggingSettings

open Json

def record : Record LoggingSettings :=
  LoggingSettings.mk
    <$> .optional "level" Decoder.string "info"
    <*> .optional "format" LogFormat.jsonDecoder .pretty
    <*> .optional "file" (.nullable Decoder.path) none
    <*> .optional "log_data" Decoder.boolean false

def jsonDecoder : Decoder LoggingSettings := record.decoder "struct LoggingSettings"

def toJson (s : LoggingSettings) : Json :=
  .object
    (optionalMember "file" (s.file.map .string)
      ++ [("format", .string s.format.name), ("level", .string s.level),
        ("log_data", .bool s.logData)])

end LoggingSettings

namespace Settings

def toJson (s : Settings) : Json :=
  .object [
    ("criteria", .object
      (Json.optionalMember "default_weight" (s.criteria.defaultWeight.map Json.ofDouble))),
    ("import", .object [
      ("create_options", .bool s.imports.createChoices),
      ("min_suggestion_confidence", Json.ofDouble (s.imports.minConfidence.convert double)),
      ("preview_rows", .ofNat s.imports.previewRows)]),
    ("logging", s.logging.toJson)]

end Settings

end Counterpart
