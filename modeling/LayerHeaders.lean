import LayerHeaders.Bound
import LayerHeaders.Chain
import LayerHeaders.CommandLine.Arguments
import LayerHeaders.CommandLine.Run
import LayerHeaders.Decimal.Shortest
import LayerHeaders.Decimal.Style
import LayerHeaders.Dialect
import LayerHeaders.Dialect.Reading
import LayerHeaders.Files.Disk
import LayerHeaders.Files.Error
import LayerHeaders.Files.Path
import LayerHeaders.Files.Replacement
import LayerHeaders.Files.System
import LayerHeaders.Group
import LayerHeaders.Header.Basic
import LayerHeaders.Header.DispatchTable
import LayerHeaders.Header.DriverInterface
import LayerHeaders.Header.Error
import LayerHeaders.Header.Kind
import LayerHeaders.Header.LayerSettings
import LayerHeaders.Header.StreamOperators
import LayerHeaders.Input
import LayerHeaders.Json.Error
import LayerHeaders.Json.Numeral
import LayerHeaders.Json.Quoted
import LayerHeaders.Json.Reader
import LayerHeaders.Json.Reading
import LayerHeaders.Json.Record
import LayerHeaders.Json.Skip
import LayerHeaders.Json.Value
import LayerHeaders.Main
import LayerHeaders.Manifest.Basic
import LayerHeaders.Manifest.Reading
import LayerHeaders.Manifest.Typing
import LayerHeaders.Output
import LayerHeaders.Registry.Alias
import LayerHeaders.Registry.Basic
import LayerHeaders.Registry.Declarations
import LayerHeaders.Registry.Error
import LayerHeaders.Registry.Index
import LayerHeaders.Registry.Reading
import LayerHeaders.Text.Blank
import LayerHeaders.Text.Literal
import LayerHeaders.Text.Start
import LayerHeaders.Text.Visible
import LayerHeaders.Xml.Document
import LayerHeaders.Xml.Element
import LayerHeaders.Xml.Entity
import LayerHeaders.Xml.Error
import LayerHeaders.Xml.Tag
import LayerHeaders.Xml.Token
import LayerHeaders.Yaml.Cursor
import LayerHeaders.Yaml.Node
import LayerHeaders.Yaml.Scalar
import LayerHeaders.Yaml.Token
import LayerHeaders.Proofs.Registry.Index
import LayerHeaders.Proofs.Registry.Reading
import LayerHeaders.Proofs.Registry.AliasChain
import LayerHeaders.Proofs.Registry.Resolution
import LayerHeaders.Proofs.Classification
import LayerHeaders.Proofs.Group
import LayerHeaders.Proofs.Partition
import LayerHeaders.Proofs.Header.Configuration
import LayerHeaders.Proofs.Header.TableText
import LayerHeaders.Proofs.Header.DriverText
import LayerHeaders.Proofs.Header.Agreement
import LayerHeaders.Proofs.Header.Guarding
import LayerHeaders.Proofs.Registry.Redeclaration
import LayerHeaders.Proofs.Registry.Refusal
import LayerHeaders.Proofs.Registry.Positions
import LayerHeaders.Proofs.Registry.Lookup
import LayerHeaders.Proofs.Header.TableRefusal
import LayerHeaders.Proofs.Registry.AliasLinks
import LayerHeaders.Proofs.Header.Forwarding
import LayerHeaders.Proofs.Header.ForwardPath
import LayerHeaders.Proofs.Header.Calls
import LayerHeaders.Proofs.Header.Resolver
import LayerHeaders.Proofs.Header.TableCompleteness
import LayerHeaders.Proofs.Related
import LayerHeaders.Proofs.Xml.Scanning
import LayerHeaders.Proofs.Xml.Building
import LayerHeaders.Proofs.Xml.Insertion
import LayerHeaders.Proofs.Registry.Alike
import LayerHeaders.Proofs.Registry.Section
import LayerHeaders.Proofs.Header.Alike
import LayerHeaders.Proofs.Header.RestrictedCommands
import LayerHeaders.Proofs.Header.RestrictedParameters
import LayerHeaders.Proofs.Registry.Ownership
import LayerHeaders.Proofs.Header.OperatorCompleteness
import LayerHeaders.Proofs.Xml.TagText
import LayerHeaders.Proofs.Xml.Writing
import LayerHeaders.Proofs.Xml.Comments
import LayerHeaders.Proofs.Xml.OpenElements
import LayerHeaders.Proofs.Xml.ReadsThrough
import LayerHeaders.Proofs.Xml.TopLevel
import LayerHeaders.Proofs.Registry.Comments
import LayerHeaders.Proofs.Header.ReadLines
import LayerHeaders.Proofs.Header.Checking
import LayerHeaders.Proofs.Header.Rendering
import LayerHeaders.Proofs.Bound.Words
import LayerHeaders.Proofs.Bound.Qualification
import LayerHeaders.Proofs.Files.Disk
import LayerHeaders.Proofs.Files.Runs
import LayerHeaders.Proofs.Files.Replacement
import LayerHeaders.Proofs.Output
import LayerHeaders.Proofs.Header.Conditionals
import LayerHeaders.Proofs.Header.SettingLines
import LayerHeaders.Proofs.Header.SettingText
import LayerHeaders.Proofs.Header.LayerSettings
import LayerHeaders.Proofs.AliasAgreement
import LayerHeaders.Proofs.Decimal
import LayerHeaders.Proofs.Manifest.Typing
import LayerHeaders.Proofs.Header.LineComments
import LayerHeaders.Proofs.Header.SettingComments
import LayerHeaders.Proofs.Header.IntegerDefaults
import LayerHeaders.Proofs.Header.Scopes
import LayerHeaders.Proofs.Header.SettingNames
import LayerHeaders.Proofs.Header.SettingRefusal
import LayerHeaders.Proofs.Bound.Idempotence
import LayerHeaders.Proofs.Text.Literal
