import RuuviGateway.Config.Default

/-!
# The configuration of older firmware

It was one block of bytes in flash. The conversion starts from the default configuration. A text is
what a string function reads at its place in the block.
-/

namespace RuuviGateway.Settings

open General Config

section Model

structure BlobEth where
  useEth : Bool
  ethDhcp : Bool
  ethStaticIp : Bytes
  ethNetmask : Bytes
  ethGw : Bytes
  ethDns1 : Bytes
  ethDns2 : Bytes

structure BlobMqtt where
  useMqtt : Bool
  mqttUseDefaultPrefix : Bool
  mqttServer : Bytes
  mqttPort : UInt16
  mqttPrefix : Bytes
  mqttClientId : Bytes
  mqttUser : Bytes
  mqttPass : Bytes

structure BlobHttp where
  useHttp : Bool
  httpUrl : Bytes
  httpUser : Bytes
  httpPass : Bytes

structure BlobLanAuth where
  lanAuthType : Bytes
  lanAuthUser : Bytes
  lanAuthPass : Bytes

structure BlobAutoUpdate where
  autoUpdateCycle : ℕ
  autoUpdateWeekdaysBitmask : UInt8
  autoUpdateIntervalFrom : UInt8
  autoUpdateIntervalTo : UInt8
  autoUpdateTzOffsetHours : Int8

structure BlobFilter where
  companyId : UInt16
  companyFilter : Bool

structure BlobScan where
  scanCodedPhy : Bool
  scan1mbitPhy : Bool
  scan2mbitPhy : Bool
  scanChannel37 : Bool
  scanChannel38 : Bool
  scanChannel39 : Bool

structure GatewayConfigBlob where
  header : UInt16
  fmtVersion : UInt16
  eth : BlobEth
  mqtt : BlobMqtt
  http : BlobHttp
  lanAuth : BlobLanAuth
  autoUpdate : BlobAutoUpdate
  filter : BlobFilter
  scan : BlobScan
  coordinates : Bytes

def ruuviGatewayConfigBlobHeader : UInt16 := 0xAABB

def ruuviGatewayConfigBlobFmtVersion : UInt16 := 0x0008

variable {P : Platform}

def gwCfgBlobConvertEth (src : BlobEth) : GwCfgEth where
  useEth := src.useEth
  ethDhcp := src.ethDhcp
  ethStaticIp := .snprintf _ src.ethStaticIp
  ethNetmask := .snprintf _ src.ethNetmask
  ethGw := .snprintf _ src.ethGw
  ethDns1 := .snprintf _ src.ethDns1
  ethDns2 := .snprintf _ src.ethDns2

def gwCfgBlobConvertMqtt (default dst : GwCfgMqtt) (src : BlobMqtt) : GwCfgMqtt :=
  { dst with
    useMqtt := src.useMqtt
    mqttServer := .snprintf _ src.mqttServer
    mqttPort := src.mqttPort
    mqttPrefix := .snprintf _
      (if src.mqttUseDefaultPrefix then default.mqttPrefix.val else src.mqttPrefix)
    mqttClientId := .snprintf _
      (if src.mqttClientId ≠ [] then src.mqttClientId else default.mqttClientId.val)
    mqttUser := .snprintf _ src.mqttUser
    mqttPass := .snprintf _ src.mqttPass }

def gwCfgBlobConvertHttp (dst : GwCfgHttp) (src : BlobHttp) : GwCfgHttp :=
  let dst := { dst with dataFormat := .ruuvi }
  if !src.useHttp then { dst with useHttpRuuvi := false, useHttp := false }
  else if src.httpUrl = ruuviGatewayHttpDefaultUrl ∧ src.httpUser = [] then
    { dst with useHttpRuuvi := true, useHttp := false }
  else
    let dst := { dst with
      useHttpRuuvi := false
      useHttp := true
      httpUrl := .snprintf _ src.httpUrl }
    if src.httpUser = [] then { dst with authType := .none }
    else
      { dst with
        authType := .basic
        auth := (dst.auth.setUser (.snprintf _ src.httpUser)).setPassword
          (.snprintf _ src.httpPass) }

def gwCfgBlobConvertLanAuthType (default : GwCfgLanAuth P) (src : BlobLanAuth) :
    HttpServerAuthType :=
  if src.lanAuthType = ascii "lan_auth_allow" then .allow
  else if src.lanAuthType = ascii "lan_auth_basic" then .basic
  else if src.lanAuthType = ascii "lan_auth_digest" then .digest
  else if src.lanAuthType = ascii "lan_auth_ruuvi" then
    if src.lanAuthUser = default.lanAuthUser.val ∧ src.lanAuthPass = default.lanAuthPass.val then
      .default
    else .ruuvi
  else .deny

def gwCfgBlobConvertLanAuth (default dst : GwCfgLanAuth P) (src : BlobLanAuth) : GwCfgLanAuth P :=
  { dst with
    lanAuthType := gwCfgBlobConvertLanAuthType default src
    lanAuthUser := .snprintf _ src.lanAuthUser
    lanAuthPass := .snprintf _ src.lanAuthPass }

/-- A cycle that is none of the three keeps that of the default configuration. -/
def gwCfgBlobConvertAutoUpdate (dst : GwCfgAutoUpdate) (src : BlobAutoUpdate) :
    GwCfgAutoUpdate where
  autoUpdateCycle :=
    match src.autoUpdateCycle with
    | 0 => .regular
    | 1 => .betaTester
    | 2 => .manual
    | _ => dst.autoUpdateCycle
  autoUpdateWeekdaysBitmask := src.autoUpdateWeekdaysBitmask
  autoUpdateIntervalFrom := src.autoUpdateIntervalFrom
  autoUpdateIntervalTo := src.autoUpdateIntervalTo
  autoUpdateTzOffsetHours := src.autoUpdateTzOffsetHours

def gwCfgBlobConvertFilter (src : BlobFilter) : GwCfgFilter where
  companyId := src.companyId
  companyUseFiltering := src.companyFilter

def gwCfgBlobConvertScan (src : BlobScan) : GwCfgScan where
  scanCodedPhy := src.scanCodedPhy
  scan1mbitPhy := src.scan1mbitPhy
  scan2mbitPhy := src.scan2mbitPhy
  scanChannel37 := src.scanChannel37
  scanChannel38 := src.scanChannel38
  scanChannel39 := src.scanChannel39
  scanDefault := false

def gwCfgBlobConvert (default : GwCfg P) (src : GatewayConfigBlob) : GwCfg P :=
  if src.header ≠ ruuviGatewayConfigBlobHeader then default
  else if src.fmtVersion ≠ ruuviGatewayConfigBlobFmtVersion then default
  else
    { default with
      ethCfg := gwCfgBlobConvertEth src.eth
      ruuviCfg.mqtt := gwCfgBlobConvertMqtt default.ruuviCfg.mqtt default.ruuviCfg.mqtt src.mqtt
      ruuviCfg.http := gwCfgBlobConvertHttp default.ruuviCfg.http src.http
      ruuviCfg.lanAuth :=
        gwCfgBlobConvertLanAuth default.ruuviCfg.lanAuth default.ruuviCfg.lanAuth src.lanAuth
      ruuviCfg.autoUpdate := gwCfgBlobConvertAutoUpdate default.ruuviCfg.autoUpdate src.autoUpdate
      ruuviCfg.filter := gwCfgBlobConvertFilter src.filter
      ruuviCfg.scan := gwCfgBlobConvertScan src.scan
      ruuviCfg.coordinates := .snprintf _ src.coordinates }

end Model

end RuuviGateway.Settings
