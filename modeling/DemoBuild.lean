import DemoBuild.Build
import DemoBuild.Config.Load
import DemoBuild.Manifest.Writing
import DemoBuild.Toolchain.Script
import DemoBuild.Toolchain.Execution
import DemoBuild.Proofs.Files.Path
import DemoBuild.Proofs.Text.Lines
import DemoBuild.Proofs.Include.DepthFirst
import DemoBuild.Proofs.Number.Text
import DemoBuild.Proofs.Header.CText
import DemoBuild.Proofs.Shader.Assembly
import DemoBuild.Proofs.Header.ShaderCode
import DemoBuild.Proofs.Session
import DemoBuild.Proofs.Failure
import DemoBuild.Proofs.Toolchain.Plan
import DemoBuild.Proofs.Toolchain.Compile
import DemoBuild.Proofs.Toolchain.Execution
import DemoBuild.Proofs.Files.System
import DemoBuild.Proofs.Shader.StageFile
import DemoBuild.Proofs.Shader.Validation
import DemoBuild.Proofs.Generate
import DemoBuild.Proofs.Build
import DemoBuild.Proofs.GeneratedFiles
import DemoBuild.Proofs.Header.Bindings
import DemoBuild.Proofs.Manifest.RoundTrip
import DemoBuild.Proofs.Shader.Sections
import DemoBuild.Proofs.Config.Tree
import DemoBuild.Proofs.Header.Template
import DemoBuild.Proofs.Config.Section
import DemoBuild.Proofs.Header.Requests
import DemoBuild.Proofs.Config.Load
import DemoBuild.Proofs.Header.Uniforms
import DemoBuild.Proofs.Shader.Declaration
import DemoBuild.Proofs.Shader.Listing
import DemoBuild.Proofs.Include.Conservation
import DemoBuild.Proofs.Include.Seams
import DemoBuild.Proofs.Shader.Qualifier
import DemoBuild.Proofs.Header.Injection
import DemoBuild.Proofs.Header.Mining
import DemoBuild.Proofs.Header.LineBreaks
import DemoBuild.Proofs.Config.History
import DemoBuild.Proofs.Header.ElementMacros
import DemoBuild.Proofs.Files.Normalize
import DemoBuild.Proofs.Toolchain.Isolation
import DemoBuild.Proofs.Toolchain.Directories
import DemoBuild.Proofs.Text.Splice
import DemoBuild.Proofs.Header.LocationMacro
import DemoBuild.Proofs.Include.Guard
