import ContractSchema.Bytes
import ContractSchema.Codec.Basic
import ContractSchema.Codec.Value
import ContractSchema.CommandLine.Basic
import ContractSchema.CommandLine.Parser
import ContractSchema.CommandLine.Task
import ContractSchema.Contract
import ContractSchema.Document
import ContractSchema.Dump
import ContractSchema.FileTree
import ContractSchema.Form.Basic
import ContractSchema.Form.Document
import ContractSchema.Form.OffchainTransfers
import ContractSchema.Form.Registry
import ContractSchema.Json.Basic
import ContractSchema.Json.Double
import ContractSchema.Json.Number
import ContractSchema.Json.Source
import ContractSchema.JsonSchema
import ContractSchema.Main
import ContractSchema.Method
import ContractSchema.ModuleRef
import ContractSchema.Name
import ContractSchema.OutputFormat
import ContractSchema.Proofs.Bytes
import ContractSchema.Proofs.Codec.Atoms
import ContractSchema.Proofs.Codec.Decoded
import ContractSchema.Proofs.Codec.Encoded
import ContractSchema.Proofs.Codec.Groups
import ContractSchema.Proofs.Codec.Normal
import ContractSchema.Proofs.Codec.Returned
import ContractSchema.Proofs.Codec.Truncation
import ContractSchema.Proofs.Codec.Written
import ContractSchema.Proofs.CommandLine.Dumping
import ContractSchema.Proofs.Contract
import ContractSchema.Proofs.FileTree.Connected
import ContractSchema.Proofs.FileTree.Directory
import ContractSchema.Proofs.Form.Agreement
import ContractSchema.Proofs.Form.Documents
import ContractSchema.Proofs.Json.Members
import ContractSchema.Proofs.Json.Atoms
import ContractSchema.Proofs.Json.Texts
import ContractSchema.Proofs.Lists
import ContractSchema.Proofs.Registry.Balances
import ContractSchema.Proofs.Registry.Files
import ContractSchema.Proofs.Registry.TokenEvents
import ContractSchema.Proofs.Schema.Arrangement
import ContractSchema.Proofs.Schema.Blobs
import ContractSchema.Proofs.Schema.Exactness
import ContractSchema.Proofs.Schema.Faults
import ContractSchema.Proofs.Schema.Grammar
import ContractSchema.Proofs.Schema.JsonReading
import ContractSchema.Proofs.Schema.JsonText
import ContractSchema.Proofs.Schema.Nesting
import ContractSchema.Proofs.Schema.Order
import ContractSchema.Proofs.Schema.Outlook
import ContractSchema.Proofs.Schema.Parts
import ContractSchema.Proofs.Schema.Reading
import ContractSchema.Proofs.Schema.Writer
import ContractSchema.Proofs.Steps
import ContractSchema.Proofs.Text.Hex
import ContractSchema.Registry
import ContractSchema.Registry.MultiRoyalties
import ContractSchema.Registry.OffchainTransfers
import ContractSchema.Schema.Blob
import ContractSchema.Schema.Document
import ContractSchema.Schema.Error
import ContractSchema.Schema.Kind
import ContractSchema.Schema.Reader
import ContractSchema.Schema.Source
import ContractSchema.Schema.Text
import ContractSchema.Schema.Type
import ContractSchema.Schema.Walk
import ContractSchema.Summary
import ContractSchema.Table
import ContractSchema.Text.Base64
import ContractSchema.Text.Graphic
import ContractSchema.Text.Hex
import ContractSchema.Text.LowerCase
import ContractSchema.Yaml.Layout
import ContractSchema.Yaml.Scalar
import ContractSchema.Proofs.Schema.Truncation
import ContractSchema.Proofs.Descriptor
import ContractSchema.Proofs.Dump.Targets
import ContractSchema.Proofs.Dump.Running
import ContractSchema.Proofs.Names
import ContractSchema.Proofs.Resolution
import ContractSchema.Proofs.Form.Rendering
import ContractSchema.Proofs.Text.Base64
import ContractSchema.Proofs.Schema.Armour
import ContractSchema.Proofs.NameRules
import ContractSchema.Proofs.Json.Numbers
import ContractSchema.Proofs.Form.Accepting
import ContractSchema.Proofs.Text.Script
import ContractSchema.Proofs.Yaml.Atoms
import ContractSchema.Proofs.Yaml.Layout
import ContractSchema.Proofs.Schema.YamlText
import ContractSchema.Proofs.Schema.Respelling
import ContractSchema.Proofs.Schema.TextForm
import ContractSchema.Proofs.Schema.TypeText
import ContractSchema.Proofs.ModuleRef
import ContractSchema.Proofs.Schema.Counts
import ContractSchema.Proofs.Schema.Positions
