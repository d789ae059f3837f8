import QueryClient.Connection.Basic

/-!
# Opening connections

A connection from its profile. Only one driver is there. The engine settings of the profile are set
after those that the profile has fields for.
-/

namespace QueryClient.Connection

open Config (Profile)

def drivers : List String :=
  ["http"]

/-- A connection as a profile says, with the files and the session that it uses. -/
def ofProfile (p : Profile) (store : Files.Store) (session : Http.Session) :
    Except Fault Connection := do
  if !drivers.contains p.driver then throw (.unsupportedDriver p.driver drivers)
  let settings : Config.Settings :=
    { database := p.database
      https := p.https
      maxExecutionTime := p.timeout
      readonlyUser := p.readonlyUser }
  match settings.apply p.settings with
  | (_, some fault) => throw fault
  | (settings, none) =>
    return {
      host := .text p.host
      port := .int p.port
      username := .text p.username
      password := Profile.textOrNull p.password
      authMethod := p.authMethod
      connectTimeout := p.connectTimeout
      certificates := Profile.textOrNull p.certificates
      settings
      queue := { session }
      store }

end QueryClient.Connection
