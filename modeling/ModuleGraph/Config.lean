/-
This file holds the settings of a project.
-/

import ModuleGraph.Error
import ModuleGraph.FileTable
import ModuleGraph.Json.Field

namespace ModuleGraph

/-- How many remote resources are kept, and for how long. -/
structure CacheConfig where
  maxSize : Nat
  lifetime : Option Nat
  deriving DecidableEq

structure Config where
  extensions : List String
  indexFiles : List String
  /-- What the addresses of the import map are resolved against. -/
  baseUrl : String
  cache : CacheConfig
  deriving DecidableEq

namespace CacheConfig

def default : CacheConfig :=
  ⟨256, none⟩

def fields : List (Json.Field CacheConfig) :=
  [Json.field "maxSize" (Json.readNatural "usize") fun config value =>
      { config with maxSize := value },
    Json.field "ttlMs" (Json.readOptional (Json.readNatural "u64")) fun config value =>
      { config with lifetime := value }]

def read : Json.Reader CacheConfig :=
  Json.readRecord "CacheConfig" fields default

def toJson (config : CacheConfig) : Json :=
  .object [("maxSize", .ofNat config.maxSize), ("ttlMs", .ofOption Json.ofNat config.lifetime)]

end CacheConfig

namespace Config

def default : Config :=
  ⟨FileTable.defaultExtensions, FileTable.defaultIndexFiles, "/", CacheConfig.default⟩

def fields : List (Json.Field Config) :=
  [Json.field "extensions" Json.readStrings fun config value =>
      { config with extensions := value },
    Json.field "indexFiles" Json.readStrings fun config value =>
      { config with indexFiles := value },
    Json.field "baseUrl" Json.readString fun config value => { config with baseUrl := value },
    Json.field "cache" CacheConfig.read fun config value => { config with cache := value }]

def read : Json.Reader Config :=
  Json.readRecord "Config" fields default

/-- Reads settings; what the text leaves out keeps its default. -/
def parse (text : String) : Except Json.Fault Config :=
  Json.readAll read text

def toJson (config : Config) : Json :=
  .object [
    ("extensions", .strings config.extensions),
    ("indexFiles", .strings config.indexFiles),
    ("baseUrl", .string config.baseUrl),
    ("cache", config.cache.toJson)]

end Config

/-- Reads a file that holds JSON; a file that is missing has no bytes. -/
def readJsonFile {α : Type} (reader : Json.Reader α) (path : String)
    (file : Option ByteArray) : Except Error α :=
  match file with
  | none => .error (.configRead path "No such file or directory (os error 2)")
  | some bytes =>
      match String.fromUTF8? bytes with
      | none => .error (.configRead path "stream did not contain valid UTF-8")
      | some text =>
          match Json.readAll reader text with
          | .ok value => .ok value
          | .error fault => .error (.configParse path fault)

def Config.load (path : String) (file : Option ByteArray) : Except Error Config :=
  readJsonFile Config.read path file

end ModuleGraph
